import SealedEnv.Proofs.Pattern.Matching

/-!
Contract: what fits the pieces that patterns are written with.

Owns:
- what fits a literal, a run of a class and an optional character;
- what fits a character or a run of a class with a pattern after it;
- `bracket`, the class of a bracket expression, and its members;
- patterns that are found at the start of a text only.

Does not own: any one pattern.
-/

namespace SealedEnv.Pattern

/-! ## Literals and runs -/

/-- The pattern of a text followed by what fits `last`. -/
def literal (text : List Char) (last : Pattern) : Pattern :=
  text.foldr (fun c done => seq (one (.single c)) done) last

theorem contains_single_iff {c d : Char} : (CharClass.single c).contains d = true ↔ d = c := by
  simp only [CharClass.single, CharClass.contains, Text.CodeRanges.contains, List.any_cons,
    List.any_nil, Bool.or_false, Bool.and_eq_true, decide_eq_true_eq]
  constructor
  · rintro ⟨atLeast, atMost⟩
    exact Char.toNat_inj.mp (by omega)
  · rintro rfl
    exact ⟨Nat.le_refl _, Nat.le_refl _⟩

theorem fits_literal_iff
    {text : List Char}
    {last : Pattern}
    {before after : Option Char}
    {stretch : List Char} :
    (literal text last).Fits before stretch after ↔
      ∃ back, stretch = text ++ back ∧ last.Fits (behind before text) back after := by
  induction text generalizing before stretch with
  | nil =>
      constructor
      · intro fits
        exact ⟨stretch, rfl, fits⟩
      · rintro ⟨back, rfl, fits⟩
        exact fits
  | cons c rest inductionHypothesis =>
      constructor
      · rintro ⟨front, others, rfl, ⟨d, rfl, isMember⟩, othersFit⟩
        obtain rfl := contains_single_iff.mp isMember
        obtain ⟨back, rfl, backFits⟩ := inductionHypothesis.mp othersFit
        refine ⟨back, rfl, ?_⟩
        rw [behind_cons]
        exact backFits
      · rintro ⟨back, rfl, backFits⟩
        rw [behind_cons] at backFits
        exact ⟨[c], rest ++ back, rfl, ⟨c, rfl, contains_single_iff.mpr rfl⟩,
          inductionHypothesis.mpr ⟨back, rfl, backFits⟩⟩

/-- Copies of one character of a class are so many characters of the class. -/
theorem copies_one_iff
    {members : CharClass}
    {count : Nat}
    {before after : Option Char}
    {stretch : List Char} :
    Copies (one members).Fits count before stretch after ↔
      stretch.length = count ∧ ∀ c ∈ stretch, members.contains c = true := by
  induction count generalizing before stretch with
  | zero =>
      constructor
      · intro none
        obtain rfl : stretch = [] := none
        exact ⟨rfl, by simp⟩
      · rintro ⟨none, -⟩
        exact List.eq_nil_of_length_eq_zero none
  | succ count inductionHypothesis =>
      constructor
      · rintro ⟨front, others, rfl, ⟨c, rfl, isMember⟩, othersFit⟩
        obtain ⟨rfl, areMembers⟩ := inductionHypothesis.mp othersFit
        exact ⟨rfl, List.forall_mem_cons.mpr ⟨isMember, areMembers⟩⟩
      · rintro ⟨lengthEq, areMembers⟩
        obtain ⟨c, others, rfl⟩ := List.exists_of_length_succ stretch lengthEq
        obtain ⟨isMember, othersMembers⟩ := List.forall_mem_cons.mp areMembers
        exact ⟨[c], others, rfl, ⟨c, rfl, isMember⟩,
          inductionHypothesis.mpr ⟨Nat.succ.inj lengthEq, othersMembers⟩⟩

theorem fits_run_iff
    {members : CharClass}
    {before after : Option Char}
    {stretch : List Char} :
    (rep (one members) 0 none).Fits before stretch after ↔
      ∀ c ∈ stretch, members.contains c = true := by
  constructor
  · rintro ⟨count, -, -, copies⟩
    exact (copies_one_iff.mp copies).2
  · intro areMembers
    exact ⟨stretch.length, Nat.zero_le _, by simp, copies_one_iff.mpr ⟨rfl, areMembers⟩⟩

theorem fits_optional_iff
    {c : Char}
    {before after : Option Char}
    {stretch : List Char} :
    (rep (one (.single c)) 0 (some 1)).Fits before stretch after ↔
      stretch = [] ∨ stretch = [c] := by
  constructor
  · rintro ⟨count, -, within, copies⟩
    obtain ⟨rfl, areMembers⟩ := copies_one_iff.mp copies
    have short := within 1 rfl
    match stretch, short, areMembers with
    | [], _, _ => exact .inl rfl
    | [d], _, areMembers =>
        obtain rfl := contains_single_iff.mp (areMembers d (by simp))
        exact .inr rfl
  · rintro (rfl | rfl)
    · exact ⟨0, Nat.le_refl 0, by simp, rfl⟩
    · refine ⟨1, Nat.zero_le 1, by simp, copies_one_iff.mpr ⟨rfl, ?_⟩⟩
      simp [contains_single_iff]

/-- A pattern between the ends of the text is found only in the texts that fit it as a whole. -/
theorem fitsWithin_whole_iff
    {inner : Pattern}
    {text : List Char} :
    FitsWithin (seq (anchor .textStart) inner) none text ↔
      ∃ stretch back, text = stretch ++ back ∧ inner.Fits none stretch back.head? := by
  constructor
  · rintro ⟨front, stretch, back, rfl, empty, rest, rfl, ⟨rfl, atStart⟩, innerFits⟩
    have none : front = [] := by
      cases last : front.getLast? with
      | none => exact List.getLast?_eq_none_iff.mp last
      | some c => simp [Anchor.holds, behind, last] at atStart
    subst none
    exact ⟨rest, back, rfl, innerFits⟩
  · rintro ⟨stretch, back, rfl, innerFits⟩
    exact ⟨[], stretch, back, rfl, [], stretch, rfl, ⟨rfl, rfl⟩, innerFits⟩

theorem fits_textEnd_iff
    {before after : Option Char}
    {stretch : List Char} :
    (anchor .textEnd).Fits before stretch after ↔ stretch = [] ∧ after = none := by
  simp [Fits, Anchor.holds]

/-! ## Pieces with a pattern after them -/

section Then

variable {members : CharClass} {last : Pattern} {before after : Option Char} {stretch : List Char}

theorem fits_one_then_iff :
    (seq (one members) last).Fits before stretch after ↔
      ∃ c rest, stretch = c :: rest ∧ members.contains c = true ∧
        last.Fits (some c) rest after := by
  constructor
  · rintro ⟨front, rest, rfl, ⟨c, rfl, isMember⟩, lastFits⟩
    exact ⟨c, rest, rfl, isMember, lastFits⟩
  · rintro ⟨c, rest, rfl, isMember, lastFits⟩
    exact ⟨[c], rest, rfl, ⟨c, rfl, isMember⟩, lastFits⟩

theorem fits_run_then_iff :
    (seq (rep (one members) 0 none) last).Fits before stretch after ↔
      ∃ run rest, stretch = run ++ rest ∧ (∀ c ∈ run, members.contains c = true) ∧
        last.Fits (behind before run) rest after := by
  constructor
  · rintro ⟨run, rest, split, runFits, lastFits⟩
    exact ⟨run, rest, split, fits_run_iff.mp runFits, lastFits⟩
  · rintro ⟨run, rest, split, areMembers, lastFits⟩
    exact ⟨run, rest, split, fits_run_iff.mpr areMembers, lastFits⟩

/-- Pieces can be put together from either side. -/
theorem fits_seq_assoc
    {first second third : Pattern} :
    (seq (seq first second) third).Fits before stretch after ↔
      (seq first (seq second third)).Fits before stretch after := by
  have aheadBoth : ∀ left right : List Char,
      ahead (left ++ right) after = ahead left (ahead right after) := by
    intro left right
    rw [ahead, ahead, ahead, List.head?_append, Option.or_assoc]
  have behindBoth : ∀ left right : List Char,
      behind before (left ++ right) = behind (behind before left) right := by
    intro left right
    rw [behind, behind, behind, List.getLast?_append, Option.or_assoc]
  constructor
  · rintro ⟨_, back, rfl, ⟨front, middle, rfl, firstFits, secondFits⟩, thirdFits⟩
    rw [← aheadBoth] at firstFits
    rw [behindBoth] at thirdFits
    exact ⟨front, middle ++ back, List.append_assoc front middle back, firstFits, middle, back, rfl,
      secondFits, thirdFits⟩
  · rintro ⟨front, _, rfl, firstFits, middle, back, rfl, secondFits, thirdFits⟩
    rw [aheadBoth] at firstFits
    rw [← behindBoth] at thirdFits
    exact ⟨front ++ middle, back, (List.append_assoc front middle back).symm,
      ⟨front, middle, rfl, firstFits, secondFits⟩, thirdFits⟩

end Then

/-! ## Bracket expressions -/

/-- The class of a bracket expression of ranges, member by member as it is written. -/
def bracket (ranges : List (Char × Char)) : CharClass :=
  ranges.foldl (fun done range => .union done (.ranges [(range.1.toNat, range.2.toNat)])) .none

theorem contains_bracket (ranges : List (Char × Char)) (c : Char) :
    (bracket ranges).contains c =
      ranges.any fun range => decide (range.1.toNat ≤ c.toNat ∧ c.toNat ≤ range.2.toNat) := by
  have unions : ∀ done : CharClass,
      (ranges.foldl (fun done range => .union done (.ranges [(range.1.toNat, range.2.toNat)]))
        done).contains c =
        (done.contains c ||
          ranges.any fun range => decide (range.1.toNat ≤ c.toNat ∧ c.toNat ≤ range.2.toNat)) := by
    induction ranges with
    | nil => simp
    | cons range rest inductionHypothesis =>
        intro done
        rw [List.foldl_cons, inductionHypothesis, List.any_cons, ← Bool.or_assoc]
        simp [CharClass.contains, Text.CodeRanges.contains]
  rw [bracket, unions]
  rfl

end SealedEnv.Pattern
