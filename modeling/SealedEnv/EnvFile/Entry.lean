import SealedEnv.KeyName
import SealedEnv.Text.Blank
import SealedEnv.Text.Lines

/-!
Contract: one entry of an env file, from its lines to its value.

Owns:
- `EntryLine`, a line that sets a key, with colon or equals sign;
- the four readings of a value on one line: empty, bare, in double and in single quotes;
- the reading of a block in single quotes that goes on over several lines.

Does not own: which lines belong to a block, or how entries are written.
-/

namespace SealedEnv.EnvFile

open Text

abbrev Line := List Char

/-! ## Entry lines -/

structure EntryLine where
  key : String
  /-- What follows the separator and the blanks after it. -/
  raw : List Char
deriving DecidableEq

/-- Holds of the two characters that may follow a key. -/
def isSeparator (c : Char) : Bool := c == ':' || c == '='

/-- Reads a line that sets a key: blanks, the key, blanks, a separator, blanks, the value. -/
def EntryLine.ofLine? (line : Line) : Option EntryLine :=
  match trimStart line with
  | [] => none
  | first :: rest =>
    if KeyName.startsRequest first then
      match trimStart (rest.dropWhile KeyName.continuesRequest) with
      | [] => none
      | c :: raw =>
        if isSeparator c then
          some ⟨String.ofList (first :: rest.takeWhile KeyName.continuesRequest), trimStart raw⟩
        else none
    else none

def isEntryLine (line : Line) : Bool := (EntryLine.ofLine? line).isSome

/-! ## Values on one line -/

/-- Replaces each `first`, `second` by `result`, from left to right and without looking at a
result again.  The characters in `done` stand before, in reverse. -/
def replacePairAfter (first second result : Char) (done : List Char) : List Char → List Char
  | [] => done.reverse
  | [c] => (c :: done).reverse
  | c :: d :: rest =>
    if c = first ∧ d = second then replacePairAfter first second result (result :: done) rest
    else replacePairAfter first second result (c :: done) (d :: rest)

/-- Replaces each `first`, `second` by `result`, from left to right. -/
def replacePair (first second result : Char) (text : List Char) : List Char :=
  replacePairAfter first second result [] text

/-- The text between single quotes: an escaped quote stands for a quote, then each double backslash
for one. -/
def unescapeSingle (inner : List Char) : List Char :=
  replacePair '\\' '\\' '\\' (replacePair '\\' '\'' '\'' inner)

/-- What a backslash and the given character stand for between double quotes. -/
def escapedChar : Char → Char
  | 'n' => '\n'
  | 'r' => '\r'
  | 't' => '\t'
  | c => c

/-- The text after a double quote up to the first one that no backslash escapes.  A backslash with
nothing after it stands for nothing.  The characters in `done` stand before, in reverse. -/
def unescapeDoubleAfter (done : List Char) : List Char → List Char
  | [] => done.reverse
  | '"' :: _ => done.reverse
  | ['\\'] => done.reverse
  | '\\' :: c :: rest => unescapeDoubleAfter (escapedChar c :: done) rest
  | c :: rest => unescapeDoubleAfter (c :: done) rest

def unescapeDouble (body : List Char) : List Char := unescapeDoubleAfter [] body

/-- What stands before the first blank that a number sign follows.  The characters in `done` stand
before, in reverse. -/
def dropCommentAfter (done : List Char) : List Char → List Char
  | [] => done.reverse
  | ' ' :: '#' :: _ => done.reverse
  | c :: rest => dropCommentAfter (c :: done) rest

/-- A bare value without the comment that a space and a number sign start. -/
def dropComment (value : List Char) : List Char := dropCommentAfter [] value

/-- The text between a single quote and the one that ends `rest`, if one does. -/
def closedBody? (rest : List Char) : Option (List Char) :=
  if rest.getLast? = some '\'' then some rest.dropLast else none

def readValue (raw : List Char) : List Char :=
  match trim raw with
  | [] => []
  | '"' :: body => unescapeDouble body
  | ['\''] => []
  | '\'' :: rest =>
    match closedBody? rest with
    | some inner => unescapeSingle inner
    | none => trim (dropComment ('\'' :: rest))
  | value => trim (dropComment value)

/-! ## Blocks -/

def isSpaceOrTab (c : Char) : Bool := c == ' ' || c == '\t'

/-- Holds of a value that starts a block: a single quote opens it and none closes it. -/
def opensBlock (raw : List Char) : Bool :=
  raw.head? == some '\'' && (dropTrailing isSpaceOrTab raw).getLast? != some '\''

def closesBlock (line : Line) : Bool := line.getLast? == some '\''

/-- The lines of a block without the quote that closes it. -/
def unquoteLast (block : List Line) : List Line :=
  match block.getLast? with
  | some last => if closesBlock last then block.dropLast ++ [last.dropLast] else block
  | none => []

/-- The value of an entry: what its line holds, or the lines of its block. -/
def valueOf (raw : List Char) (block : List Line) : List Char :=
  if opensBlock raw then unlines (raw.drop 1 :: unquoteLast block) else readValue raw

end SealedEnv.EnvFile
