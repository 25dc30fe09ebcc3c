import SealedEnv.EnvFile.Document
import SealedEnv.EnvFile.Printer

/-!
Contract: setting one key in the text of an env file.

Owns:
- `spanAfter`, the updater's own count of the lines of a block;
- `update`, which puts the new entry in place of each old one of its key, with all lines of a block,
  and at the end if there was none.

Does not own: the items of a file, or storing the new text.
-/

namespace SealedEnv.EnvFile

open Text

/-- Counts the lines of a block, on from `count`: the block ends before the next entry line and
after a line that closes it. -/
def countBlock (count : Nat) : List Line → Nat
  | [] => count
  | line :: rest =>
    if isEntryLine line then count
    else if closesBlock line then count + 1
    else countBlock (count + 1) rest

/-- How many of the lines in `rest`, which follow an entry line, belong to its entry. -/
def spanAfter (raw : List Char) (rest : List Line) : Nat :=
  if opensBlock raw then countBlock 0 rest else 0

/-- Puts `written` in place of each entry of the key, and at the end if there was none.  The new
lines in `done` stand before, in reverse; `found` tells whether one of them was put there. -/
def replaceAfter (key : String) (written : Line) (found : Bool) (done : List Line)
    (lines : List Line) : List Line :=
  match lines with
  | [] => if found then done.reverse else (written :: done).reverse
  | line :: rest =>
    match EntryLine.ofLine? line with
    | none => replaceAfter key written found (line :: done) rest
    | some ⟨held, raw⟩ =>
      let span := spanAfter raw rest
      if held = key then replaceAfter key written true (written :: done) (rest.drop span)
      else replaceAfter key written found ((rest.take span).reverseAux (line :: done))
        (rest.drop span)
termination_by lines.length
decreasing_by
  all_goals simp only [List.length_cons, List.length_drop]
  all_goals omega

/-- The lines of a text after a key was set in it.  The new entry counts as one line even where it
holds line feeds of its own. -/
def updatedLines (text key value : String) : List Line :=
  replaceAfter key (printEntry key value).toList false [] (lines text.toList)

/-- The text after a key was set in it: comments, other entries and lines that set nothing keep
their places. -/
def update (text key value : String) : String :=
  String.ofList (unlines (updatedLines text key value) ++ ['\n'])

end SealedEnv.EnvFile
