import SealedEnv.Text.GraphemeExtend
import SealedEnv.Text.Unprintable
import SealedEnv.Text.Utf8

/-!
Contract: texts and paths in double quotes, as messages show them.

Owns:
- the escape of one character;
- `quoted` for texts and `quotedBytes` for byte strings.

Does not own: which messages quote their arguments.
-/

namespace SealedEnv.Text

def hexDigits (n : Nat) : List Char := Nat.toDigits 16 n

def codeEscape (c : Char) : List Char :=
  ['\\', 'u', '\x7b'] ++ hexDigits c.toNat ++ ['\x7d']

/-- A character as it stands between double quotes; `apostrophe` says whether a single quote is
escaped too. -/
def escapeChar (apostrophe : Bool) (c : Char) : List Char :=
  if c = '\x00' then ['\\', '0']
  else if c = '\t' then ['\\', 't']
  else if c = '\r' then ['\\', 'r']
  else if c = '\n' then ['\\', 'n']
  else if c = '\\' then ['\\', '\\']
  else if c = '"' then ['\\', '"']
  else if c = '\'' && apostrophe then ['\\', '\'']
  else if isGraphemeExtend c || isUnprintable c then codeEscape c
  else [c]

def quoted (text : String) : String :=
  String.ofList ('"' :: text.toList.flatMap (escapeChar false) ++ ['"'])

/-- A byte by its two upper-case digits in base sixteen. -/
def byteEscape (byte : UInt8) : List Char :=
  let digits := (hexDigits byte.toNat).map Char.toUpper
  ['\\', 'x'] ++ (if digits.length = 1 then '0' :: digits else digits)

/-- A byte string in double quotes: its characters as in a text, with single quotes escaped too,
and every broken byte by its value. -/
def quotedBytes (bytes : Bytes) : String :=
  String.ofList <| '"' :: (Utf8.pieces bytes).flatMap (fun
    | .char c => escapeChar true c
    | .broken broken => broken.flatMap byteEscape) ++ ['"']

end SealedEnv.Text
