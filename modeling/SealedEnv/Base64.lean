import SealedEnv.Text.Utf8

/-!
Contract: base64 in the standard alphabet with mandatory, canonical padding.

Owns:
- `encode` and `decode`;
- the cause of a refusal, with the place it names.

Does not own: blanks around a text, which are the reader's business.
-/

namespace SealedEnv.Base64

/-- Why a text is no base64. -/
inductive DecodeError where
  /-- A byte that cannot stand at this place. -/
  | invalidSymbol (offset : Nat) (byte : UInt8)
  /-- The last group has fewer than two symbols; `length` counts all symbols before it too. -/
  | invalidLength (length : Nat)
  /-- The last symbol carries bits that no byte uses. -/
  | invalidLastSymbol (offset : Nat) (byte : UInt8)
  /-- The last group is not filled up to four. -/
  | invalidPadding
deriving DecidableEq, Repr

def DecodeError.message : DecodeError → String
  | invalidSymbol offset byte => s!"Invalid symbol {byte.toNat}, offset {offset}."
  | invalidLength length => s!"Invalid input length: {length}"
  | invalidLastSymbol offset byte => s!"Invalid last symbol {byte.toNat}, offset {offset}."
  | invalidPadding => "Invalid padding"

def pad : UInt8 := 61

def symbol (value : Nat) : UInt8 :=
  if value < 26 then UInt8.ofNat (65 + value)
  else if value < 52 then UInt8.ofNat (97 + (value - 26))
  else if value < 62 then UInt8.ofNat (48 + (value - 52))
  else if value = 62 then 43
  else 47

def value? (byte : UInt8) : Option Nat :=
  if 65 ≤ byte && byte ≤ 90 then some (byte.toNat - 65)
  else if 97 ≤ byte && byte ≤ 122 then some (byte.toNat - 97 + 26)
  else if 48 ≤ byte && byte ≤ 57 then some (byte.toNat - 48 + 52)
  else if byte = 43 then some 62
  else if byte = 47 then some 63
  else none

/-! ## Encoding -/

/-- The four symbols of three bytes. -/
def encodeTriple (a b c : UInt8) : Bytes :=
  [symbol (a.toNat / 4), symbol (a.toNat % 4 * 16 + b.toNat / 16),
    symbol (b.toNat % 16 * 4 + c.toNat / 64), symbol (c.toNat % 64)]

/-- The group of the last one or two bytes. -/
def encodeRest : Bytes → Bytes
  | [a] => [symbol (a.toNat / 4), symbol (a.toNat % 4 * 16), pad, pad]
  | [a, b] =>
    [symbol (a.toNat / 4), symbol (a.toNat % 4 * 16 + b.toNat / 16),
      symbol (b.toNat % 16 * 4), pad]
  | _ => []

/-- The symbols of `bytes` after those in `done`, which stand in reverse. -/
def encodeAfter (done : Bytes) : Bytes → Bytes
  | a :: b :: c :: rest => encodeAfter ((encodeTriple a b c).reverse ++ done) rest
  | rest => done.reverse ++ encodeRest rest

def encodeBytes (bytes : Bytes) : Bytes := encodeAfter [] bytes

def encode (bytes : Bytes) : String :=
  String.ofList ((encodeBytes bytes).map fun byte => Char.ofNat byte.toNat)

/-! ## Decoding -/

def decodeQuad (a b c d : Nat) : Bytes :=
  [UInt8.ofNat (a * 4 + b / 16), UInt8.ofNat (b % 16 * 16 + c / 4), UInt8.ofNat (c % 4 * 64 + d)]

/-- The values of a group that is followed by another one: four symbols of the alphabet. -/
def readGroup (offset : Nat) (group : Bytes) : Except DecodeError (List Nat) :=
  match group with
  | [] => .ok []
  | byte :: rest =>
    match value? byte with
    | none => .error (.invalidSymbol offset byte)
    | some value => (value :: ·) <$> readGroup (offset + 1) rest

/-- The values and the number of pads of the last group, read from its `position`-th byte on.
`firstPad` is the place of a pad seen before; only pads may follow it, and it is not among the
first two bytes of the group. -/
def readLast
    (offset position : Nat)
    (firstPad : Option Nat)
    (group : Bytes) :
    Except DecodeError (List Nat × Nat) :=
  match group with
  | [] => .ok ([], 0)
  | byte :: rest =>
    if byte = pad then
      if position < 2 then .error (.invalidSymbol (offset + position) byte)
      else do
        let (values, pads) ←
          readLast offset (position + 1) (firstPad <|> some (offset + position)) rest
        return (values, pads + 1)
    else match firstPad with
      | some place => .error (.invalidSymbol place pad)
      | none =>
        match value? byte with
        | none => .error (.invalidSymbol (offset + position) byte)
        | some value => do
          let (values, pads) ← readLast offset (position + 1) none rest
          return (value :: values, pads)

/-- The bytes of the last group, which starts at `offset`. -/
def decodeLast (offset : Nat) (group : Bytes) : Except DecodeError Bytes := do
  let (values, pads) ← readLast offset 0 none group
  if group.isEmpty then return []
  if values.length < 2 then throw (.invalidLength (offset + values.length))
  if values.length + pads ≠ 4 then throw .invalidPadding
  match values with
  | [a, b] =>
    if b % 16 ≠ 0 then throw (.invalidLastSymbol (offset + 1) (symbol b))
    return (decodeQuad a b 0 0).take 1
  | [a, b, c] =>
    if c % 4 ≠ 0 then throw (.invalidLastSymbol (offset + 2) (symbol c))
    return (decodeQuad a b c 0).take 2
  | [a, b, c, d] => return decodeQuad a b c d
  | _ => return []

/-- The bytes of the symbols from `offset` on, after those in `done`, which stand in reverse. -/
def decodeAfter (offset : Nat) (done : Bytes) : Bytes → Except DecodeError Bytes
  | a :: b :: c :: d :: e :: rest =>
    match readGroup offset [a, b, c, d] with
    | .ok [a, b, c, d] =>
      decodeAfter (offset + 4) ((decodeQuad a b c d).reverse ++ done) (e :: rest)
    | .ok _ => .ok []
    | .error cause => .error cause
  | group => (done.reverse ++ ·) <$> decodeLast offset group

/-- Holds of a byte that can stand nowhere in base64. -/
def isForeign (byte : UInt8) : Bool := byte != pad && (value? byte).isNone

/-- The bytes of a string of symbols.  A foreign byte that is one too many for whole groups is
reported first, then the first fault from the left. -/
def decodeBytes (symbols : Bytes) : Except DecodeError Bytes :=
  match symbols.getLast? with
  | some last =>
    if symbols.length % 4 = 1 && isForeign last then
      .error (.invalidSymbol (symbols.length - 1) last)
    else decodeAfter 0 [] symbols
  | none => .ok []

def decode (text : String) : Except DecodeError Bytes := decodeBytes (Utf8.encode text)

end SealedEnv.Base64
