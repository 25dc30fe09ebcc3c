import SealedEnv.Text.Lines

/-!
Contract: splitting a text into lines undoes writing lines.

Owns:
- `terminated`, the text of lines with a line feed after each;
- `IsWhole`, the lines that a text gives back as they were written;
- the lines of a text that goes on after a line feed.

Does not own: what a line means.
-/

namespace SealedEnv.Text

/-- The text of lines with a line feed after each. -/
def terminated (parts : List (List Char)) : List Char := parts.flatMap (· ++ ['\n'])

/-- Holds of a line that splitting gives back: no line feed in it and no carriage return at its
end. -/
def IsWhole (line : List Char) : Prop := '\n' ∉ line ∧ line.getLast? ≠ some '\r'

@[simp] theorem terminated_append (left right : List (List Char)) :
    terminated (left ++ right) = terminated left ++ terminated right :=
  List.flatMap_append

theorem isWhole_of_not_mem
    {line : List Char}
    (noFeed : '\n' ∉ line)
    (noReturn : '\r' ∉ line) :
    IsWhole line :=
  ⟨noFeed, fun atEnd => noReturn (List.mem_of_getLast? atEnd)⟩

/-! ## Splitting at line feeds -/

theorem not_mem_of_mem_splitOn
    {α : Type}
    [BEq α]
    [LawfulBEq α]
    {separator : α}
    {text piece : List α}
    (member : piece ∈ text.splitOn separator) :
    separator ∉ piece := by
  induction text generalizing piece with
  | nil =>
      rw [List.splitOn_nil, List.mem_singleton] at member
      simp [member]
  | cons first rest inductionHypothesis =>
      rw [List.splitOn_cons_eq_if_modifyHead] at member
      split at member
      · rcases List.mem_cons.mp member with empty | inRest
        · simp [empty]
        · exact inductionHypothesis inRest
      · rename_i notSeparator
        obtain ⟨head, tail, split⟩ :=
          List.exists_cons_of_ne_nil (List.splitOn_ne_nil separator rest)
        rw [split, List.modifyHead_cons] at member
        rcases List.mem_cons.mp member with isHead | inTail
        · have headClean : separator ∉ head := inductionHypothesis (by rw [split]; simp)
          rw [isHead]
          intro inside
          rcases List.mem_cons.mp inside with atFront | further
          · exact notSeparator (by simp [atFront])
          · exact headClean further
        · exact inductionHypothesis (by rw [split]; simp [inTail])

theorem mem_of_mem_splitOn
    {text piece : List Char}
    {c : Char}
    (member : piece ∈ text.splitOn '\n')
    (inside : c ∈ piece) :
    c ∈ text := by
  induction text generalizing piece with
  | nil =>
      rw [List.splitOn_nil, List.mem_singleton] at member
      simp [member] at inside
  | cons first rest inductionHypothesis =>
      rw [List.splitOn_cons_eq_if_modifyHead] at member
      split at member
      · rcases List.mem_cons.mp member with empty | inRest
        · simp [empty] at inside
        · exact List.mem_cons_of_mem first (inductionHypothesis inRest inside)
      · obtain ⟨head, tail, split⟩ :=
          List.exists_cons_of_ne_nil (List.splitOn_ne_nil '\n' rest)
        rw [split, List.modifyHead_cons] at member
        rcases List.mem_cons.mp member with isHead | inTail
        · rw [isHead] at inside
          rcases List.mem_cons.mp inside with atFront | further
          · simp [atFront]
          · exact List.mem_cons_of_mem first (inductionHypothesis (by rw [split]; simp) further)
        · exact List.mem_cons_of_mem first
            (inductionHypothesis (by rw [split]; simp [inTail]) inside)

theorem unlines_concat
    (front : List (List Char))
    (last : List Char) :
    unlines (front ++ [last]) = terminated front ++ last := by
  unfold unlines terminated
  induction front with
  | nil => simp
  | cons part front inductionHypothesis =>
      rw [List.cons_append, List.intercalate_cons_of_ne_nil (by simp), inductionHypothesis]
      simp

/-- Lines joined by line feeds, with one more at the end, are terminated lines. -/
theorem unlines_append_feed
    {parts : List (List Char)}
    (nonempty : parts ≠ []) :
    unlines parts ++ ['\n'] = terminated parts := by
  rw [← List.dropLast_concat_getLast nonempty, unlines_concat]
  simp [terminated]

theorem unlines_splitOn (text : List Char) : unlines (text.splitOn '\n') = text :=
  List.intercalate_splitOn '\n'

/-- A text with a line feed after it is its pieces with one after each. -/
theorem append_feed_eq_terminated (text : List Char) :
    text ++ ['\n'] = terminated (text.splitOn '\n') := by
  rw [← unlines_append_feed (List.splitOn_ne_nil '\n' text), unlines_splitOn]

/-! ## Lines of a text -/

@[simp] theorem lines_nil : lines [] = [] := rfl

/-- A line feed divides the lines of a text. -/
theorem lines_append_feed (front rest : List Char) :
    lines (front ++ '\n' :: rest) = (front.splitOn '\n').map dropReturn ++ lines rest := by
  obtain ⟨head, tail, split⟩ := List.exists_cons_of_ne_nil (List.splitOn_ne_nil '\n' rest)
  have last : (front.splitOn '\n' ++ head :: tail).getLast? = (head :: tail).getLast? := by
    rw [List.getLast?_append]
    simp [List.getLast?_eq_some_getLast]
  simp only [lines, List.splitOn_append_cons_self, split, last]
  rw [List.dropLast_append_of_ne_nil (by simp), List.map_append, List.append_assoc]

/-- The lines of a text that ends with a line feed stay apart from what is written after it. -/
theorem lines_append
    {front : List Char}
    (finished : front = [] ∨ front.getLast? = some '\n')
    (rest : List Char) :
    lines (front ++ rest) = lines front ++ lines rest := by
  rcases finished with rfl | ends
  · rfl
  · obtain ⟨body, rfl⟩ : ∃ body, front = body ++ ['\n'] :=
      List.getLast?_eq_some_iff.mp ends
    rw [List.append_assoc, List.singleton_append, lines_append_feed, lines_append_feed, lines_nil,
      List.append_nil]

theorem dropReturn_eq_self
    {line : List Char}
    (noReturn : line.getLast? ≠ some '\r') :
    dropReturn line = line := by
  unfold dropReturn
  rw [if_neg noReturn]

theorem dropReturn_eq_self_iff {line : List Char} :
    dropReturn line = line ↔ line.getLast? ≠ some '\r' := by
  constructor
  · intro same ends
    rw [dropReturn, if_pos ends] at same
    have shorter := congrArg List.length same
    have filled : 0 < line.length := List.length_pos_of_mem (List.mem_of_getLast? ends)
    rw [List.length_dropLast] at shorter
    omega
  · exact dropReturn_eq_self

theorem dropReturn_subset (line : List Char) : dropReturn line ⊆ line := by
  unfold dropReturn
  split
  · exact List.dropLast_subset line
  · exact List.Subset.refl line

/-- The lines of terminated lines are these lines without the carriage returns at their ends. -/
theorem lines_terminated_eq_map
    {parts : List (List Char)}
    (noFeed : ∀ part ∈ parts, '\n' ∉ part) :
    lines (terminated parts) = parts.map dropReturn := by
  induction parts with
  | nil => rfl
  | cons part rest inductionHypothesis =>
      have partClean := noFeed part List.mem_cons_self
      have restClean : ∀ other ∈ rest, '\n' ∉ other := by
        intro other member
        exact noFeed other (List.mem_cons_of_mem part member)
      have shape : terminated (part :: rest) = part ++ '\n' :: terminated rest := by
        simp [terminated]
      rw [shape, lines_append_feed, List.splitOn_eq_singleton partClean,
        inductionHypothesis restClean, List.map_cons, List.map_nil, List.singleton_append,
        List.map_cons]

/-- Terminated whole lines are the lines of their text. -/
theorem lines_terminated
    {parts : List (List Char)}
    (whole : ∀ part ∈ parts, IsWhole part) :
    lines (terminated parts) = parts := by
  rw [lines_terminated_eq_map fun part member => (whole part member).1,
    List.map_congr_left fun part member => dropReturn_eq_self (whole part member).2]
  exact List.map_id parts

/-- Lines without line feeds can be had back from their text. -/
theorem terminated_injective
    {left right : List (List Char)}
    (leftClean : ∀ part ∈ left, '\n' ∉ part)
    (rightClean : ∀ part ∈ right, '\n' ∉ part)
    (same : terminated left = terminated right) :
    left = right := by
  have pieces : ∀ {parts : List (List Char)}, (∀ part ∈ parts, '\n' ∉ part) →
      (terminated parts).splitOn '\n' = parts ++ [[]] := by
    intro parts clean
    have joined : terminated parts = unlines (parts ++ [[]]) := by
      rw [unlines_concat, List.append_nil]
    rw [joined]
    apply List.splitOn_intercalate '\n' _ (by simp)
    intro part member
    rcases List.mem_append.mp member with inParts | isLast
    · exact clean part inParts
    · simp [List.mem_singleton.mp isLast]
  have padded : left ++ [[]] = right ++ [[]] := by
    rw [← pieces leftClean, ← pieces rightClean, same]
  exact List.append_cancel_right padded

/-- A text that wants its last line feed has the same lines without it. -/
theorem lines_of_unfinished
    {text : List Char}
    {parts : List (List Char)}
    {last : Char}
    (finished : text ++ ['\n'] = terminated parts)
    (whole : ∀ part ∈ parts, IsWhole part)
    (ends : text.getLast? = some last)
    (notFeed : last ≠ '\n') :
    lines text = parts := by
  have nonempty : parts ≠ [] := by
    rintro rfl
    simp [terminated] at finished
  obtain ⟨front, final, rfl⟩ : ∃ front final, parts = front ++ [final] :=
    ⟨parts.dropLast, parts.getLast nonempty, (List.dropLast_concat_getLast nonempty).symm⟩
  have joined : text = unlines (front ++ [final]) := by
    rw [← unlines_append_feed nonempty] at finished
    exact List.append_cancel_right finished
  have finalFilled : final ≠ [] := by
    rintro rfl
    rw [joined, unlines_concat, List.append_nil] at ends
    rcases List.eq_nil_or_concat front with rfl | ⟨before, line, rfl⟩
    · simp [terminated] at ends
    · simp [terminated] at ends
      exact notFeed ends.symm
  have pieces : text.splitOn '\n' = front ++ [final] := by
    rw [joined]
    exact List.splitOn_intercalate '\n' (fun part member => (whole part member).1) nonempty
  have frontSame : front.map dropReturn = front := by
    rw [List.map_congr_left fun part member =>
      dropReturn_eq_self (whole part (List.mem_append_left [final] member)).2]
    exact List.map_id front
  unfold lines
  simp [pieces, frontSame, finalFilled]

theorem not_mem_of_mem_lines
    {text line : List Char}
    (member : line ∈ lines text) :
    '\n' ∉ line := by
  unfold lines at member
  rcases List.mem_append.mp member with inFront | isLast
  · obtain ⟨piece, inPieces, rfl⟩ := List.mem_map.mp inFront
    have clean := not_mem_of_mem_splitOn (List.dropLast_subset _ inPieces)
    unfold dropReturn
    split
    · intro inside
      exact clean (List.dropLast_subset _ inside)
    · exact clean
  · split at isLast
    · simp at isLast
    · rw [List.mem_singleton.mp isLast]
      rw [List.getLast?_eq_some_getLast (List.splitOn_ne_nil '\n' text)]
      exact not_mem_of_mem_splitOn (List.getLast_mem _)

end SealedEnv.Text
