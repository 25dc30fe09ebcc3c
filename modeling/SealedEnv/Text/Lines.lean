/-!
Contract: a text as a list of lines.

Owns:
- `lines`, which splits at line feeds and drops one carriage return before each;
- `unlines`, which joins lines with single line feeds.

Does not own: what a line means.
-/

namespace SealedEnv.Text

/-- A line without the one carriage return it may end with. -/
def dropReturn (line : List Char) : List Char :=
  if line.getLast? = some '\r' then line.dropLast else line

/-- The lines of a text: a line feed ends a line and takes one carriage return with it.  What
follows the last line feed is a line of its own, kept as it is, unless it is empty. -/
def lines (text : List Char) : List (List Char) :=
  let pieces := text.splitOn '\n'
  let last := pieces.getLast?.getD []
  pieces.dropLast.map dropReturn ++ (if last.isEmpty then [] else [last])

/-- The lines with one line feed between neighbours. -/
def unlines (parts : List (List Char)) : List Char := ['\n'].intercalate parts

end SealedEnv.Text
