import Mathlib.Data.List.TakeWhile
import SealedEnv.Text.Blank

/-!
Contract: what trimming leaves of a text.

Owns:
- scans that stop at the first character;
- the texts that trimming leaves alone: those with no blank at either end.

Does not own: which characters are blank.
-/

namespace SealedEnv.Text

/-! ## Characters that stop a scan -/

theorem dropWhile_eq_self
    {p : Char → Bool}
    {text : List Char}
    (stops : text.head?.any p = false) :
    text.dropWhile p = text := by
  cases text with
  | nil => rfl
  | cons first rest =>
      have firstStops : p first = false := by simpa using stops
      rw [List.dropWhile_cons_of_neg (by simp [firstStops])]

theorem takeWhile_eq_nil
    {p : Char → Bool}
    {text : List Char}
    (stops : text.head?.any p = false) :
    text.takeWhile p = [] := by
  cases text with
  | nil => rfl
  | cons first rest =>
      have firstStops : p first = false := by simpa using stops
      rw [List.takeWhile_cons_of_neg (by simp [firstStops])]

theorem dropTrailing_eq_self
    {p : Char → Bool}
    {text : List Char}
    (stops : text.getLast?.any p = false) :
    dropTrailing p text = text := by
  unfold dropTrailing
  rw [dropWhile_eq_self (by simpa using stops), List.reverse_reverse]

theorem dropTrailing_isPrefix (p : Char → Bool) (text : List Char) :
    dropTrailing p text <+: text := by
  unfold dropTrailing
  rw [← List.reverse_suffix, List.reverse_reverse]
  exact List.dropWhile_suffix p

theorem dropTrailing_eq_nil_iff (p : Char → Bool) (text : List Char) :
    dropTrailing p text = [] ↔ ∀ c ∈ text, p c = true := by
  simp [dropTrailing]

theorem dropTrailing_cons
    {p : Char → Bool}
    {first : Char}
    {text : List Char}
    (filled : dropTrailing p text ≠ []) :
    dropTrailing p (first :: text) = first :: dropTrailing p text := by
  unfold dropTrailing at *
  rw [List.reverse_cons, List.dropWhile_append, if_neg (by simpa using filled)]
  simp

/-! ## Texts that trimming leaves alone -/

theorem trim_eq_self
    {text : List Char}
    (plainFront : text.head?.any isBlank = false)
    (plainEnd : text.getLast?.any isBlank = false) :
    trim text = text := by
  unfold trim trimStart trimEnd
  rw [dropWhile_eq_self plainFront, dropTrailing_eq_self plainEnd]

theorem head?_trimStart (text : List Char) : (trimStart text).head?.any isBlank = false := by
  induction text with
  | nil => rfl
  | cons first rest inductionHypothesis =>
      unfold trimStart at *
      by_cases blank : isBlank first = true
      · rw [List.dropWhile_cons_of_pos blank]
        exact inductionHypothesis
      · rw [List.dropWhile_cons_of_neg blank]
        simpa using blank

theorem trimStart_trimStart (text : List Char) : trimStart (trimStart text) = trimStart text :=
  dropWhile_eq_self (head?_trimStart text)

theorem trim_trimStart (text : List Char) : trim (trimStart text) = trim text := by
  unfold trim
  rw [trimStart_trimStart]

theorem trim_eq_nil
    {text : List Char}
    (blank : ∀ c ∈ text, isBlank c = true) :
    trim text = [] := by
  have start : trimStart text = [] := by
    unfold trimStart
    rw [List.dropWhile_eq_nil_iff]
    exact blank
  unfold trim
  rw [start]
  rfl

theorem ends_of_trim_eq_self
    {text : List Char}
    (same : trim text = text) :
    text.head?.any isBlank = false ∧ text.getLast?.any isBlank = false := by
  have startSame : trimStart text = text := by
    have noLonger : (trim text).length ≤ (trimStart text).length :=
      (dropTrailing_isPrefix isBlank (trimStart text)).length_le
    rw [same] at noLonger
    exact (List.dropWhile_suffix isBlank).eq_of_length_le noLonger
  constructor
  · rw [← startSame]
    exact head?_trimStart text
  · have endSame : trimEnd text = text := by
      rw [← startSame]
      exact same.trans startSame.symm
    rw [← endSame]
    unfold trimEnd dropTrailing
    rw [List.getLast?_reverse]
    exact head?_trimStart text.reverse

/-- Trimming leaves exactly the texts alone that have no blank at either end. -/
theorem trim_eq_self_iff (text : List Char) :
    trim text = text ↔
      text.head?.any isBlank = false ∧ text.getLast?.any isBlank = false :=
  ⟨ends_of_trim_eq_self, fun ends => trim_eq_self ends.1 ends.2⟩

/-- A blank after a text without blanks goes, and nothing else does. -/
theorem trim_append_blank
    {text : List Char}
    (noBlank : ∀ c ∈ text, isBlank c = false)
    {last : Char}
    (blank : isBlank last = true) :
    trim (text ++ [last]) = text := by
  cases text with
  | nil =>
      apply trim_eq_nil
      intro c member
      rwa [List.mem_singleton.mp member]
  | cons first rest =>
      have start : trimStart (first :: rest ++ [last]) = first :: rest ++ [last] :=
        dropWhile_eq_self (by simpa using noBlank first (by simp))
      have kept : dropTrailing isBlank (first :: rest) = first :: rest := by
        apply dropTrailing_eq_self
        cases final : (first :: rest).getLast? with
        | none => rfl
        | some c => exact noBlank c (List.mem_of_getLast? final)
      unfold trim trimEnd
      rw [start]
      unfold dropTrailing at *
      rw [List.reverse_append, List.reverse_singleton, List.singleton_append,
        List.dropWhile_cons_of_pos blank, kept]

theorem trim_trim (text : List Char) : trim (trim text) = trim text := by
  rw [trim_eq_self_iff]
  constructor
  · have front : trim text <+: trimStart text := dropTrailing_isPrefix isBlank _
    cases shape : trim text with
    | nil => rfl
    | cons first rest =>
        rw [shape] at front
        obtain ⟨more, whole⟩ := front
        have clean := head?_trimStart text
        rw [← whole] at clean
        simpa using clean
  · unfold trim trimEnd dropTrailing
    rw [List.getLast?_reverse]
    exact head?_trimStart (trimStart text).reverse

end SealedEnv.Text
