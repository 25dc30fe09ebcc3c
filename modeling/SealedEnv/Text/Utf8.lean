/-!
Contract: texts and their UTF-8 bytes.

Owns:
- `Bytes`, the byte strings of the library;
- strict encoding and decoding, which are inverse to each other;
- `pieces`, which reads any byte string as characters and maximal broken stretches, and the lossy
  reading built on it.

Does not own: the encoding of one character, which is the core library's.
-/

namespace SealedEnv

abbrev Bytes := List UInt8

namespace Utf8

def encode (text : String) : Bytes := text.toByteArray.data.toList

def decode? (bytes : Bytes) : Option String := String.fromUTF8? ⟨bytes.toArray⟩

@[simp] theorem decode?_encode (text : String) : decode? (encode text) = some text := by
  simp [decode?, encode, String.fromUTF8?, text.isValidUTF8, String.fromUTF8]

/-- A text is read only from its own bytes. -/
theorem encode_of_decode?
    {bytes : Bytes}
    {text : String}
    (decoded : decode? bytes = some text) :
    encode text = bytes := by
  unfold decode? String.fromUTF8? at decoded
  split at decoded
  · rw [← Option.some.inj decoded]
    rfl
  · contradiction

theorem encode_injective
    {left right : String}
    (same : encode left = encode right) :
    left = right := by
  have decoded := decode?_encode left
  rw [same, decode?_encode] at decoded
  exact (Option.some.inj decoded).symm

/-- What a byte string holds at one place: a character, or bytes that no character starts with. -/
inductive Piece where
  | char (c : Char)
  | broken (bytes : Bytes)
deriving DecidableEq

/-- What the first byte of a longer character announces. -/
structure Lead where
  /-- How many bytes follow it. -/
  tail : Nat
  /-- The least value the second byte may have. -/
  low : UInt8
  /-- The greatest value the second byte may have. -/
  high : UInt8
  /-- The bits of the code point that it carries. -/
  bits : Nat

/-- Reads the first byte of a character of two to four bytes.  The bounds of the second byte keep
out overlong forms, surrogates and code points above U+10FFFF. -/
def Lead.ofByte? (byte : UInt8) : Option Lead :=
  if 0xc2 ≤ byte && byte ≤ 0xdf then some ⟨1, 0x80, 0xbf, byte.toNat - 0xc0⟩
  else if byte == 0xe0 then some ⟨2, 0xa0, 0xbf, 0⟩
  else if byte == 0xed then some ⟨2, 0x80, 0x9f, 0xd⟩
  else if 0xe1 ≤ byte && byte ≤ 0xef then some ⟨2, 0x80, 0xbf, byte.toNat - 0xe0⟩
  else if byte == 0xf0 then some ⟨3, 0x90, 0xbf, 0⟩
  else if 0xf1 ≤ byte && byte ≤ 0xf3 then some ⟨3, 0x80, 0xbf, byte.toNat - 0xf0⟩
  else if byte == 0xf4 then some ⟨3, 0x80, 0x8f, 4⟩
  else none

/-- The bytes at the front of `rest` that continue a character begun by `lead`, at most
`lead.tail` of them. -/
def Lead.continuation (lead : Lead) (rest : Bytes) : Bytes :=
  match rest with
  | [] => []
  | second :: more =>
    if lead.low ≤ second && second ≤ lead.high then
      second :: (more.take (lead.tail - 1)).takeWhile fun byte => 0x80 ≤ byte && byte ≤ 0xbf
    else []

/-- The piece that starts with `lead`, whose byte is `first`, and goes on with `tail`. -/
def Lead.piece (lead : Lead) (first : UInt8) (tail : Bytes) : Piece :=
  if tail.length = lead.tail then
    .char (Char.ofNat (tail.foldl (fun code byte => code * 64 + (byte.toNat - 0x80)) lead.bits))
  else .broken (first :: tail)

/-- The pieces of `bytes` after those in `done`, which stand in reverse. -/
def piecesAfter (done : List Piece) (bytes : Bytes) : List Piece :=
  match bytes with
  | [] => done.reverse
  | first :: rest =>
    if first < 0x80 then piecesAfter (.char (Char.ofNat first.toNat) :: done) rest
    else match Lead.ofByte? first with
      | none => piecesAfter (.broken [first] :: done) rest
      | some lead =>
        let tail := lead.continuation rest
        piecesAfter (lead.piece first tail :: done) (rest.drop tail.length)
termination_by bytes.length
decreasing_by
  all_goals simp only [List.length_cons, List.length_drop]
  all_goals omega

def pieces (bytes : Bytes) : List Piece := piecesAfter [] bytes

/-- The text of a byte string, with U+FFFD in place of each broken stretch. -/
def decodeLossy (bytes : Bytes) : String :=
  String.ofList <| (pieces bytes).map fun
    | .char c => c
    | .broken _ => '\ufffd'

end Utf8

end SealedEnv
