import SealedEnv.Text.Utf8

/-!
Contract: the kinds of arguments of a command line.

Owns:
- `Word`, what an argument looks like by itself.

Does not own: what a word means to a verb.
-/

namespace SealedEnv.Invocation

/-- What an argument looks like. -/
inductive Word where
  /-- Two dashes alone. -/
  | escape
  /-- Two dashes, a name and perhaps an equals sign with a value.  A name that is no text is
  absent. -/
  | long (name : Option String) (value : Option Bytes)
  /-- One dash and letters, up to the first byte that is no letter of a text. -/
  | short (letters : List Char)
  | plain
deriving DecidableEq

def dash : UInt8 := 45

def equalsSign : UInt8 := 61

/-- A name and what follows its equals sign. -/
def splitValue (text : Bytes) : Option String × Option Bytes :=
  let name := text.takeWhile (· ≠ equalsSign)
  match text.dropWhile (· ≠ equalsSign) with
  | [] => (Utf8.decode? name, none)
  | _ :: value => (Utf8.decode? name, some value)

/-- The characters before the first broken stretch. -/
def leadingChars : List Utf8.Piece → List Char
  | .char c :: rest => c :: leadingChars rest
  | _ => []

def Word.ofBytes (argument : Bytes) : Word :=
  match argument with
  | first :: second :: rest =>
    if first ≠ dash then .plain
    else if second = dash then
      if rest.isEmpty then .escape else .long (splitValue rest).1 (splitValue rest).2
    else .short (leadingChars (Utf8.pieces (second :: rest)))
  | _ => .plain

end SealedEnv.Invocation
