/-!
Contract: scripts as trees.

Owns:
- words and the pieces that are expanded in them;
- redirections;
- `Script`, from simple commands to loops.

Does not own: the text of a script, or what it does.
-/

namespace SealedEnv.Host

/-- What an expansion does with the value of a parameter.  Words and patterns are kept as they are
written. -/
inductive Twist where
  | plain
  | length
  /-- A word in place of a value that is absent or, if so marked, empty. -/
  | fallback (emptyToo : Bool) (word : String)
  /-- The same, and the word becomes the value. -/
  | assigned (emptyToo : Bool) (word : String)
  /-- A word in place of a value that is there. -/
  | replaced (emptyToo : Bool) (word : String)
  /-- The end of the script if there is no value. -/
  | demanded (emptyToo : Bool) (word : String)
  | withoutFront (longest : Bool) (pattern : String)
  | withoutBack (longest : Bool) (pattern : String)
deriving DecidableEq

inductive Part where
  | literal (text : String)
  | parameter (name : String) (twist : Twist)
  /-- What a script writes. -/
  | output (script : String)
  /-- The value of an arithmetical expression. -/
  | number (expression : String)
deriving DecidableEq

/-- A part of a word, and whether it stands in quotes. -/
structure Piece where
  part : Part
  quoted : Bool
deriving DecidableEq

abbrev Word := List Piece

/-- The text of a word in which nothing is quoted or expanded. -/
def Word.plain? (word : Word) : Option String :=
  match word with
  | [⟨.literal text, false⟩] => some text
  | _ => none

/-- What a redirection does to a stream. -/
inductive Redirect.Kind where
  | read
  | write
  | append
  /-- The stream becomes the same as another one. -/
  | same
  /-- The stream reads a text. -/
  | text
deriving DecidableEq

structure Redirect where
  stream : Nat
  kind : Redirect.Kind
  word : Word
deriving DecidableEq

inductive Script where
  | empty
  | simple (assignments : List (String × Word)) (words : List Word) (redirects : List Redirect)
  | sequence (first second : Script)
  | both (first second : Script)
  | either (first second : Script)
  | pipe (first second : Script)
  | negated (body : Script)
  | background (body : Script)
  | subshell (body : Script)
  | redirected (body : Script) (redirects : List Redirect)
  | branch (condition yes no : Script)
  /-- Repeats a body while the success of a condition is as stated. -/
  | loop (success : Bool) (condition body : Script)
  /-- Runs a body for each word, or for each argument. -/
  | each (name : String) (words : Option (List Word)) (body : Script)
  /-- Runs a body if a word fits a pattern. -/
  | choose (word : Word) (patterns : List Word) (body otherwise : Script)
  | define (name : String) (body : Script)
deriving DecidableEq

end SealedEnv.Host
