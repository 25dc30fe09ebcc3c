import SealedEnv.EnvFile.Document

/-!
Contract: how the lines of an env file are divided into items.

Owns:
- the division without its accumulators, one equation for each kind of line;
- the induction that follows the division;
- the law that a new entry line ends whatever stands before it;
- the law that no line is lost or moved;
- the pair of an item, and the law that a block holds none.

Does not own: what the values mean.
-/

namespace SealedEnv.EnvFile

open Text

/-! ## Blocks -/

theorem takeBlockAfter_eq (done lines : List Line) :
    takeBlockAfter done lines = (done.reverse ++ (takeBlock lines).1, (takeBlock lines).2) := by
  unfold takeBlock
  induction lines generalizing done with
  | nil => simp [takeBlockAfter]
  | cons line rest inductionHypothesis =>
      simp only [takeBlockAfter]
      split
      · simp
      · split
        · simp
        · rw [inductionHypothesis (line :: done), inductionHypothesis [line]]
          simp

@[simp] theorem takeBlock_nil : takeBlock [] = ([], []) := rfl

/-- An entry line ends a block before itself, and a line that closes the block ends it after
itself. -/
theorem takeBlock_cons (line : Line) (rest : List Line) :
    takeBlock (line :: rest) =
      if isEntryLine line then ([], line :: rest)
      else if closesBlock line then ([line], rest)
      else (line :: (takeBlock rest).1, (takeBlock rest).2) := by
  unfold takeBlock
  simp only [takeBlockAfter]
  split
  · rfl
  · split
    · rfl
    · rw [takeBlockAfter_eq]
      simp [takeBlock]

theorem mem_takeBlock
    {lines : List Line}
    {line : Line}
    (member : line ∈ (takeBlock lines).1) :
    EntryLine.ofLine? line = none := by
  induction lines with
  | nil => simp at member
  | cons first rest inductionHypothesis =>
      rw [takeBlock_cons] at member
      split at member
      · simp at member
      · rename_i plain
        have firstPlain : EntryLine.ofLine? first = none := by
          simpa [isEntryLine] using plain
        split at member
        · rw [List.mem_singleton.mp member]
          exact firstPlain
        · rcases List.mem_cons.mp member with rfl | further
          · exact firstPlain
          · exact inductionHypothesis further

theorem takeBlock_append_eq (lines : List Line) :
    (takeBlock lines).1 ++ (takeBlock lines).2 = lines := by
  induction lines with
  | nil => rfl
  | cons line rest inductionHypothesis =>
      rw [takeBlock_cons]
      split
      · rfl
      · split
        · rfl
        · simp [inductionHypothesis]

/-- Holds of lines at which an open block ends: there are none, or an entry line comes first. -/
def EndsBlock (lines : List Line) : Prop := lines.head?.all isEntryLine = true

/-- A block that ends within `front` is the same whatever follows. -/
theorem takeBlock_append
    (front : List Line)
    {rest : List Line}
    (ends : EndsBlock rest) :
    takeBlock (front ++ rest) = ((takeBlock front).1, (takeBlock front).2 ++ rest) := by
  induction front with
  | nil =>
      cases rest with
      | nil => rfl
      | cons line more =>
          have entry : isEntryLine line = true := by simpa [EndsBlock] using ends
          simp [takeBlock_cons, entry]
  | cons line front inductionHypothesis =>
      rw [List.cons_append, takeBlock_cons, takeBlock_cons, inductionHypothesis]
      split
      · rfl
      · split <;> rfl

/-- The lines of a block up to the one that closes it are taken, whatever follows. -/
theorem takeBlock_of_closed
    {inner : List Line}
    {last : Line}
    (innerLines : ∀ line ∈ inner, isEntryLine line = false ∧ closesBlock line = false)
    (lastPlain : isEntryLine last = false)
    (lastCloses : closesBlock last = true)
    (rest : List Line) :
    takeBlock (inner ++ last :: rest) = (inner ++ [last], rest) := by
  induction inner with
  | nil => simp [takeBlock_cons, lastPlain, lastCloses]
  | cons line inner inductionHypothesis =>
      have lineInner := innerLines line (by simp)
      have innerRest : ∀ other ∈ inner, isEntryLine other = false ∧ closesBlock other = false := by
        intro other member
        exact innerLines other (List.mem_cons_of_mem line member)
      rw [List.cons_append, takeBlock_cons, inductionHypothesis innerRest]
      simp [lineInner.1, lineInner.2]

/-- What follows a block makes no difference to the block if both continuations end it, or if it
was closed. -/
theorem takeBlock_replace
    (lines : List Line)
    {after : List Line}
    (ends : EndsBlock (takeBlock lines).2 → EndsBlock after) :
    takeBlock ((takeBlock lines).1 ++ after) = ((takeBlock lines).1, after) := by
  induction lines with
  | nil =>
      have afterEnds : EndsBlock after := ends rfl
      simpa using takeBlock_append [] afterEnds
  | cons line rest inductionHypothesis =>
      rw [takeBlock_cons] at ends ⊢
      split
      · rename_i entry
        have afterEnds : EndsBlock after := ends (by simp [EndsBlock, entry])
        simpa using takeBlock_append [] afterEnds
      · rename_i plain
        split
        · rename_i closes
          simp [takeBlock_cons, plain, closes]
        · rename_i goesOn
          rw [if_neg plain, if_neg goesOn] at ends
          simp [takeBlock_cons, plain, goesOn, inductionHypothesis ends]

/-! ## Items -/

/-- The induction that follows the division: a line that sets nothing, an entry on one line, and an
entry with a block stand before the rest. -/
@[elab_as_elim]
theorem division_induction
    {motive : List Line → Prop}
    (nil : motive [])
    (other : ∀ line rest, EntryLine.ofLine? line = none → motive rest → motive (line :: rest))
    (single : ∀ line rest key raw, EntryLine.ofLine? line = some ⟨key, raw⟩ →
      opensBlock raw = false → motive rest → motive (line :: rest))
    (block : ∀ line rest key raw, EntryLine.ofLine? line = some ⟨key, raw⟩ →
      opensBlock raw = true → motive (takeBlock rest).2 → motive (line :: rest))
    (lines : List Line) :
    motive lines :=
  match lines with
  | [] => nil
  | line :: rest =>
    match found : EntryLine.ofLine? line with
    | none => other line rest found (division_induction nil other single block rest)
    | some ⟨key, raw⟩ =>
      match opens : opensBlock raw with
      | false => single line rest key raw found opens
          (division_induction nil other single block rest)
      | true => block line rest key raw found opens
          (division_induction nil other single block (takeBlock rest).2)
termination_by lines.length
decreasing_by
  all_goals simp only [List.length_cons]
  all_goals have := takeBlock_length_le rest
  all_goals omega

theorem itemsAfter_eq (done : List Item) (lines : List Line) :
    itemsAfter done lines = done.reverse ++ itemsOf lines := by
  unfold itemsOf
  induction lines using division_induction generalizing done with
  | nil => simp [itemsAfter]
  | other line rest found inductionHypothesis =>
      rw [itemsAfter, itemsAfter, found]
      simp only []
      rw [inductionHypothesis (.other line :: done), inductionHypothesis [.other line]]
      simp
  | single line rest key raw found closed inductionHypothesis =>
      rw [itemsAfter, itemsAfter, found]
      simp only [closed, Bool.false_eq_true, if_false]
      rw [inductionHypothesis (_ :: done), inductionHypothesis [_]]
      simp
  | block line rest key raw found opens inductionHypothesis =>
      rw [itemsAfter, itemsAfter, found]
      simp only [opens, if_true]
      rw [inductionHypothesis (_ :: done), inductionHypothesis [_]]
      simp

@[simp] theorem itemsOf_nil : itemsOf [] = [] := by
  simp [itemsOf, itemsAfter]

theorem itemsOf_other
    {line : Line}
    (found : EntryLine.ofLine? line = none)
    (rest : List Line) :
    itemsOf (line :: rest) = .other line :: itemsOf rest := by
  rw [itemsOf, itemsAfter, found]
  simp [itemsAfter_eq]

theorem itemsOf_single
    {line : Line}
    {key : String}
    {raw : List Char}
    (found : EntryLine.ofLine? line = some ⟨key, raw⟩)
    (closed : opensBlock raw = false)
    (rest : List Line) :
    itemsOf (line :: rest) = .entry ⟨key, raw, line, []⟩ :: itemsOf rest := by
  rw [itemsOf, itemsAfter, found]
  simp [closed, itemsAfter_eq]

theorem itemsOf_block
    {line : Line}
    {key : String}
    {raw : List Char}
    (found : EntryLine.ofLine? line = some ⟨key, raw⟩)
    (opens : opensBlock raw = true)
    (rest : List Line) :
    itemsOf (line :: rest) =
      .entry ⟨key, raw, line, (takeBlock rest).1⟩ :: itemsOf (takeBlock rest).2 := by
  rw [itemsOf, itemsAfter, found]
  simp [opens, itemsAfter_eq]

theorem flatMap_lines_itemsOf (lines : List Line) :
    (itemsOf lines).flatMap Item.lines = lines := by
  induction lines using division_induction with
  | nil => simp
  | other line rest found inductionHypothesis =>
      rw [itemsOf_other found]
      simp [Item.lines, inductionHypothesis]
  | single line rest key raw found closed inductionHypothesis =>
      rw [itemsOf_single found closed]
      simp [Item.lines, inductionHypothesis]
  | block line rest key raw found opens inductionHypothesis =>
      rw [itemsOf_block found opens]
      simp [Item.lines, inductionHypothesis, takeBlock_append_eq]

/-- A new entry line ends whatever stands before it: the lines before it are divided as if nothing
followed. -/
theorem itemsOf_append
    (front : List Line)
    {rest : List Line}
    (ends : EndsBlock rest) :
    itemsOf (front ++ rest) = itemsOf front ++ itemsOf rest := by
  induction front using division_induction with
  | nil => simp
  | other line front found inductionHypothesis =>
      rw [List.cons_append, itemsOf_other found, itemsOf_other found, inductionHypothesis]
      rfl
  | single line front key raw found closed inductionHypothesis =>
      rw [List.cons_append, itemsOf_single found closed, itemsOf_single found closed,
        inductionHypothesis]
      rfl
  | block line front key raw found opens inductionHypothesis =>
      rw [List.cons_append, itemsOf_block found opens, itemsOf_block found opens,
        takeBlock_append front ends, inductionHypothesis]
      rfl

/-- A block holds no entries, so it makes no difference to what is read of the entries which of its
lines it takes. -/
theorem filterMap_itemsOf_takeBlock
    {result : Type}
    {read : Item → Option result}
    (other : ∀ line, read (.other line) = none)
    (lines : List Line) :
    (itemsOf (takeBlock lines).2).filterMap read = (itemsOf lines).filterMap read := by
  induction lines with
  | nil => rfl
  | cons line rest inductionHypothesis =>
      rw [takeBlock_cons]
      split
      · rfl
      · rename_i plain
        have found : EntryLine.ofLine? line = none := by simpa [isEntryLine] using plain
        rw [itemsOf_other found, List.filterMap_cons_none (other line)]
        split
        · rfl
        · exact inductionHypothesis

/-! ## Pairs -/

/-- The key and the value of an item that is an entry. -/
def Item.pair? (item : Item) : Option (String × String) :=
  item.entry?.map fun entry => (entry.key, entry.value)

theorem pairs_eq (text : String) : pairs text = (items text).filterMap Item.pair? := rfl

end SealedEnv.EnvFile
