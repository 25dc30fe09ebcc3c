import SealedEnv.EnvFile.Entry
import SealedEnv.EnvMap

/-!
Contract: an env file as a list of entries and other lines.

Owns:
- `Item`, a stretch of lines of a file, from which the lines can be had back;
- the division of lines into items, in which a new entry ends an open block;
- `parse`, the map that a file denotes.

Does not own: reading the file from a store.
-/

namespace SealedEnv.EnvFile

open Text

/-- An entry and the lines it takes. -/
structure Entry where
  key : String
  /-- The value as the first line gives it. -/
  raw : List Char
  /-- The first line. -/
  line : Line
  /-- The lines of the block that the value opens. -/
  block : List Line
deriving DecidableEq

def Entry.value (entry : Entry) : String := String.ofList (valueOf entry.raw entry.block)

/-- A stretch of lines: an entry, or one line that sets nothing. -/
inductive Item where
  | entry (entry : Entry)
  | other (line : Line)
deriving DecidableEq

def Item.lines : Item → List Line
  | .entry held => held.line :: held.block
  | .other line => [line]

def Item.entry? : Item → Option Entry
  | .entry held => some held
  | .other _ => none

/-- Divides lines into the rest of an open block and what follows it.  The block ends before the
next entry line and after a line that closes it.  The lines in `done` stand before, in reverse. -/
def takeBlockAfter (done : List Line) : List Line → List Line × List Line
  | [] => (done.reverse, [])
  | line :: rest =>
    if isEntryLine line then (done.reverse, line :: rest)
    else if closesBlock line then ((line :: done).reverse, rest)
    else takeBlockAfter (line :: done) rest

/-- Divides lines into the rest of an open block and what follows it. -/
def takeBlock (lines : List Line) : List Line × List Line := takeBlockAfter [] lines

theorem takeBlockAfter_length_le (done lines : List Line) :
    (takeBlockAfter done lines).2.length ≤ lines.length := by
  fun_induction takeBlockAfter done lines with
  | case1 => simp
  | case2 => simp
  | case3 => simp
  | case4 _ _ _ _ _ ih => exact Nat.le_succ_of_le ih

/-- What follows a block is no longer than what its opening line is followed by. -/
theorem takeBlock_length_le (lines : List Line) :
    (takeBlock lines).2.length ≤ lines.length :=
  takeBlockAfter_length_le [] lines

/-- The items of `lines` after those in `done`, which stand in reverse. -/
def itemsAfter (done : List Item) (lines : List Line) : List Item :=
  match lines with
  | [] => done.reverse
  | line :: rest =>
    match EntryLine.ofLine? line with
    | none => itemsAfter (.other line :: done) rest
    | some ⟨key, raw⟩ =>
      if opensBlock raw then
        itemsAfter (.entry ⟨key, raw, line, (takeBlock rest).1⟩ :: done) (takeBlock rest).2
      else itemsAfter (.entry ⟨key, raw, line, []⟩ :: done) rest
termination_by lines.length
decreasing_by
  all_goals simp only [List.length_cons]
  all_goals have := takeBlock_length_le rest
  all_goals omega

def itemsOf (lines : List Line) : List Item := itemsAfter [] lines

def items (text : String) : List Item := itemsOf (lines text.toList)

def pairs (text : String) : List (String × String) :=
  (items text).filterMap fun item => item.entry?.map fun entry => (entry.key, entry.value)

/-- The map that a text denotes: of several entries of a key the last one counts, and lines that
set nothing are passed over. -/
def parse (text : String) : EnvMap := EnvMap.ofList (pairs text)

end SealedEnv.EnvFile
