import SealedEnv.Base64

/-!
Contract: the text form of a sealed value,
`OJSTER-1:<base64 of the encapsulated key>:<base64 of the encrypted blob>`, which may stand in one
pair of single quotes.

Owns:
- `build`, `isSealed` and `parse`;
- the default pattern that detects sealed values among others.

Does not own: decoding the two segments, or what they hold.
-/

namespace SealedEnv.Envelope

def mark : String := "OJSTER-1:"

/-- What stands between the two segments. -/
def separator : Char := ':'

/-- The pattern of a bare or quoted sealed value. -/
def detectionPattern : String :=
  "^'?(OJSTER-1:[A-Za-z0-9+/=]*:[A-Za-z0-9+/=]*)'?$"

structure Segments where
  /-- The encapsulated key. -/
  capsule : String
  /-- The encrypted blob. -/
  blob : String
deriving DecidableEq, Repr

inductive ParseError where
  | missingMark
  | missingSeparator
deriving DecidableEq, Repr

def ParseError.message : ParseError → String
  | missingMark => s!"missing {mark} prefix"
  | missingSeparator => "missing separator between ciphertext segments"

/-- The text form of an encapsulated key and an encrypted blob. -/
def build (capsule blob : Bytes) : String :=
  mark ++ Base64.encode capsule ++ String.singleton separator ++ Base64.encode blob

def unquote : List Char → List Char
  | '\'' :: rest => if rest.getLast? = some '\'' then rest.dropLast else '\'' :: rest
  | text => text

/-- What follows the mark in a text that starts with it. -/
def payload? (text : List Char) : Option (List Char) :=
  if mark.toList.isPrefixOf text then some (text.drop mark.toList.length) else none

/-- Holds of a text that starts with the mark, bare or in one pair of single quotes. -/
def isSealed (text : String) : Bool := (payload? (unquote text.toList)).isSome

/-- The segments of a sealed value; the first separator after the mark divides them. -/
def parse (text : String) : Except ParseError Segments :=
  match payload? (unquote text.toList) with
  | none => .error .missingMark
  | some payload =>
    match payload.dropWhile (· ≠ separator) with
    | [] => .error .missingSeparator
    | _ :: blob => .ok
      ⟨String.ofList (payload.takeWhile (· ≠ separator)), String.ofList blob⟩

end SealedEnv.Envelope
