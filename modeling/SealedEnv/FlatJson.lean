import SealedEnv.EnvMap
import SealedEnv.Text.Utf8

/-!
Contract: maps of texts as JSON objects without nesting.

Owns:
- `encode`, the compact form with sorted keys;
- `decode?`, which accepts one object of string members and nothing else; the last member of a name
  counts.

Does not own: any other JSON value.
-/

namespace SealedEnv.FlatJson

/-! ## Writing -/

def hexDigit (n : Nat) : Char := Char.ofNat (if n < 10 then 48 + n else 87 + n)

def escapeChar (c : Char) : List Char :=
  if c = '"' then ['\\', '"']
  else if c = '\\' then ['\\', '\\']
  else if c = '\x08' then ['\\', 'b']
  else if c = '\x0c' then ['\\', 'f']
  else if c = '\n' then ['\\', 'n']
  else if c = '\r' then ['\\', 'r']
  else if c = '\t' then ['\\', 't']
  else if c.toNat < 32 then
    ['\\', 'u', '0', '0', hexDigit (c.toNat / 16), hexDigit (c.toNat % 16)]
  else [c]

def encodeText (text : String) : List Char :=
  '"' :: text.toList.flatMap escapeChar ++ ['"']

def encodeMember (member : String × String) : List Char :=
  encodeText member.1 ++ ':' :: encodeText member.2

/-- A map as an object, without blanks. -/
def encode (map : EnvMap) : String :=
  String.ofList ('\x7b' :: [','].intercalate (map.entries.map encodeMember) ++ ['\x7d'])

/-! ## Tokens -/

/-- What an object of strings is written with. -/
inductive Token where
  | opening
  | closing
  | colon
  | comma
  | text (text : String)
deriving DecidableEq, Repr

/-- Where the reading of tokens stands.  The characters of a string that were read stand in
reverse. -/
inductive Mode where
  | outside
  | inside (read : List Char)
  | escape (read : List Char)
  /-- So many digits of a code unit are missing; `lead` is the first half of a pair. -/
  | digits (read : List Char) (lead : Option Nat) (missing value : Nat)
  /-- After the first half of a pair, at the backslash of the second one. -/
  | pairEscape (read : List Char) (lead : Nat)
  /-- After that backslash. -/
  | pairLetter (read : List Char) (lead : Nat)

def hexValue? (c : Char) : Option Nat :=
  if c.isDigit then some (c.toNat - 48)
  else if 'a' ≤ c && c ≤ 'f' then some (c.toNat - 87)
  else if 'A' ≤ c && c ≤ 'F' then some (c.toNat - 55)
  else none

/-- Where a string goes on after a whole code unit. -/
def afterUnit (read : List Char) (lead : Option Nat) (value : Nat) : Option Mode :=
  let isLead := 0xd800 ≤ value && value < 0xdc00
  let isTrail := 0xdc00 ≤ value && value < 0xe000
  match lead with
  | some lead =>
    if isTrail then
      some (.inside (Char.ofNat (0x10000 + (lead - 0xd800) * 0x400 + (value - 0xdc00)) :: read))
    else none
  | none =>
    if isLead then some (.pairEscape read value)
    else if isTrail then none
    else some (.inside (Char.ofNat value :: read))

/-- Where a string goes on after the character behind a backslash. -/
def afterEscape (read : List Char) : Char → Option Mode
  | '"' => some (.inside ('"' :: read))
  | '\\' => some (.inside ('\\' :: read))
  | '/' => some (.inside ('/' :: read))
  | 'b' => some (.inside ('\x08' :: read))
  | 'f' => some (.inside ('\x0c' :: read))
  | 'n' => some (.inside ('\n' :: read))
  | 'r' => some (.inside ('\r' :: read))
  | 't' => some (.inside ('\t' :: read))
  | 'u' => some (.digits read none 4 0)
  | _ => none

/-- Reads one character: the next mode, and the tokens so far with the last one first. -/
def step (state : Mode × List Token) (c : Char) : Option (Mode × List Token) :=
  let (mode, tokens) := state
  match mode with
  | .outside =>
    match c with
    | ' ' | '\t' | '\n' | '\r' => some (.outside, tokens)
    | '\x7b' => some (.outside, .opening :: tokens)
    | '\x7d' => some (.outside, .closing :: tokens)
    | ':' => some (.outside, .colon :: tokens)
    | ',' => some (.outside, .comma :: tokens)
    | '"' => some (.inside [], tokens)
    | _ => none
  | .inside read =>
    if c = '"' then some (.outside, .text (String.ofList read.reverse) :: tokens)
    else if c = '\\' then some (.escape read, tokens)
    else if c.toNat < 32 then none
    else some (.inside (c :: read), tokens)
  | .escape read => (afterEscape read c).map (·, tokens)
  | .digits read lead missing value => do
    let value := value * 16 + (← hexValue? c)
    if missing ≤ 1 then (afterUnit read lead value).map (·, tokens)
    else some (.digits read lead (missing - 1) value, tokens)
  | .pairEscape read lead => if c = '\\' then some (.pairLetter read lead, tokens) else none
  | .pairLetter read lead =>
    if c = 'u' then some (.digits read (some lead) 4 0, tokens) else none

def tokens? (text : List Char) : Option (List Token) :=
  match text.foldlM step (.outside, []) with
  | some (.outside, tokens) => some tokens.reverse
  | _ => none

/-! ## Reading -/

/-- Reads the members of an object, at least one, up to its end. -/
def readMembers (map : EnvMap) : List Token → Option EnvMap
  | [.text name, .colon, .text value, .closing] => some (map.insert name value)
  | .text name :: .colon :: .text value :: .comma :: rest =>
    readMembers (map.insert name value) rest
  | _ => none

def ofTokens? : List Token → Option EnvMap
  | [.opening, .closing] => some .empty
  | .opening :: rest => readMembers .empty rest
  | _ => none

def decodeText? (text : String) : Option EnvMap := (tokens? text.toList).bind ofTokens?

/-- The map of a byte string that is one object of strings. -/
def decode? (bytes : Bytes) : Option EnvMap := (Utf8.decode? bytes).bind decodeText?

end SealedEnv.FlatJson
