import SealedEnv.EnvFile.Entry

/-!
Contract: the written form of an entry.

Owns:
- the five forms of a value: empty, bare, in double quotes with escapes, as a block in single
  quotes, and as an escaped text where a block would not read back;
- `printEntry` and the text of a list of entries.

Does not own: where in a file an entry is written.
-/

namespace SealedEnv.EnvFile

open Text

def escapeDouble : Char → List Char
  | '\\' => ['\\', '\\']
  | '"' => ['\\', '"']
  | '\n' => ['\\', 'n']
  | '\r' => ['\\', 'r']
  | '\t' => ['\\', 't']
  | c => [c]

def doubleQuoted (value : List Char) : List Char :=
  '"' :: value.flatMap escapeDouble ++ ['"']

def needsQuotes (c : Char) : Bool :=
  c == ' ' || c == '#' || c == '"' || c == '\'' || c == '\\' || c == '\t' || c == '\r'

/-- Holds of a value of several lines that would not read back as a block in single quotes: its
first line is blank, a later one looks like an entry, it ends with a line feed, or it holds a
single quote or a carriage return. -/
def defeatsBlock (value : List Char) : Bool :=
  let parts := value.splitOn '\n'
  (parts.drop 1).any isEntryLine || parts.head?.any (fun part => (trim part).isEmpty) ||
    value.any (fun c => c == '\'' || c == '\r') || value.getLast? == some '\n'

def writtenValue (value : List Char) : List Char :=
  if value.contains '\n' then
    if defeatsBlock value then doubleQuoted value else '\'' :: value ++ ['\'']
  else if value.any needsQuotes then doubleQuoted value
  else value

/-- The entry that sets a key to a value, without a line feed at its end. -/
def printEntry (key value : String) : String :=
  key ++ "=" ++ String.ofList (writtenValue value.toList)

/-- The text of entries, each with a line feed at its end. -/
def printAll (pairs : List (String × String)) : String :=
  String.join (pairs.map fun pair => printEntry pair.1 pair.2 ++ "\n")

end SealedEnv.EnvFile
