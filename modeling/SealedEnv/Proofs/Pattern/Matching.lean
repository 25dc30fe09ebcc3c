import Mathlib.Data.List.Basic
import SealedEnv.Pattern.Matching

/-!
Contract: the search finds a pattern in exactly the texts that hold a stretch which fits it.

Owns:
- `Fits`, the stretches that fit a pattern between the characters beside them;
- what is left of a pattern after one character, as a statement on stretches;
- `occursIn_iff`, for patterns whose repetitions are bounded the right way round.

Does not own: the written form of patterns.
-/

namespace SealedEnv.Pattern

/-! ## Stretches between characters -/

/-- The character that a place before `stretch` sees ahead. -/
def ahead (stretch : List Char) (after : Option Char) : Option Char := stretch.head?.or after

/-- The character that a place after `stretch` sees behind it. -/
def behind (before : Option Char) (stretch : List Char) : Option Char := stretch.getLast?.or before

@[simp] theorem ahead_nil (after : Option Char) : ahead [] after = after := rfl

@[simp] theorem ahead_cons (c : Char) (rest : List Char) (after : Option Char) :
    ahead (c :: rest) after = some c := rfl

@[simp] theorem behind_nil (before : Option Char) : behind before [] = before := rfl

@[simp] theorem behind_cons (before : Option Char) (c : Char) (rest : List Char) :
    behind before (c :: rest) = behind (some c) rest := by
  cases rest with
  | nil => rfl
  | cons next more => simp [behind, List.getLast?_cons]

/-- A condition on a stretch between the characters before and after it. -/
abbrev Fitting := Option Char → List Char → Option Char → Prop

/-- Holds of a stretch that can be cut in two, so that the pieces fit where they stand. -/
def Joined (first second : Fitting) : Fitting := fun before stretch after =>
  ∃ front back, stretch = front ++ back ∧
    first before front (ahead back after) ∧ second (behind before front) back after

/-- Holds of so many fitting stretches, one after the other. -/
def Copies (fitting : Fitting) : Nat → Fitting
  | 0 => fun _ stretch _ => stretch = []
  | count + 1 => Joined fitting (Copies fitting count)

/-- What is asked of the rest of a stretch that starts with `c`. -/
def leftAfter (fitting : Fitting) (before : Option Char) (c : Char) : Fitting :=
  fun _ rest after => fitting before (c :: rest) after

/-- Holds of a stretch that belongs to the pattern where it stands. -/
def Fits : Pattern → Fitting
  | empty => fun _ stretch _ => stretch = []
  | one members => fun _ stretch _ => ∃ c, stretch = [c] ∧ members.contains c = true
  | anchor condition => fun before stretch after =>
    stretch = [] ∧ condition.holds ⟨before, after⟩ = true
  | seq first second => Joined first.Fits second.Fits
  | alt left right => fun before stretch after =>
    left.Fits before stretch after ∨ right.Fits before stretch after
  | rep body least most => fun before stretch after =>
    ∃ count, least ≤ count ∧ (∀ bound, most = some bound → count ≤ bound) ∧
      Copies body.Fits count before stretch after

/-- Holds of a pattern in which no repetition asks for more copies than it allows. -/
def isBounded : Pattern → Bool
  | empty => true
  | one _ => true
  | anchor _ => true
  | seq first second => first.isBounded && second.isBounded
  | alt left right => left.isBounded && right.isBounded
  | rep body least most => body.isBounded && most.all (least ≤ ·)

/-! ## Pieces and copies -/

theorem joined_nil_iff
    {first second : Fitting}
    {before after : Option Char} :
    Joined first second before [] after ↔ first before [] after ∧ second before [] after := by
  constructor
  · rintro ⟨front, back, split, firstFits, secondFits⟩
    obtain ⟨rfl, rfl⟩ := List.append_eq_nil_iff.mp split.symm
    exact ⟨firstFits, secondFits⟩
  · rintro ⟨firstFits, secondFits⟩
    exact ⟨[], [], rfl, firstFits, secondFits⟩

/-- The first character belongs to the second piece if the first one is empty. -/
theorem joined_cons_iff
    {first second : Fitting}
    {before after : Option Char}
    {c : Char}
    {rest : List Char} :
    Joined first second before (c :: rest) after ↔
      first before [] (some c) ∧ second before (c :: rest) after ∨
        Joined (leftAfter first before c) second (some c) rest after := by
  constructor
  · rintro ⟨front, back, split, firstFits, secondFits⟩
    cases front with
    | nil =>
        rw [List.nil_append] at split
        subst split
        exact .inl ⟨firstFits, secondFits⟩
    | cons d more =>
        rw [List.cons_append, List.cons.injEq] at split
        obtain ⟨rfl, rfl⟩ := split
        rw [behind_cons] at secondFits
        exact .inr ⟨more, back, rfl, firstFits, secondFits⟩
  · rintro (⟨firstFits, secondFits⟩ | ⟨front, back, rfl, firstFits, secondFits⟩)
    · exact ⟨[], c :: rest, rfl, firstFits, secondFits⟩
    · refine ⟨c :: front, back, rfl, firstFits, ?_⟩
      rw [behind_cons]
      exact secondFits

/-- An empty first piece can be left out. -/
theorem joined_empty_iff
    {second : Fitting}
    {before after : Option Char}
    {stretch : List Char} :
    Joined (Fits empty) second before stretch after ↔ second before stretch after := by
  constructor
  · rintro ⟨front, back, rfl, frontEmpty, secondFits⟩
    obtain rfl : front = [] := frontEmpty
    exact secondFits
  · intro secondFits
    exact ⟨[], stretch, rfl, rfl, secondFits⟩

/-- Copies of a stretch that may be empty can be added in front. -/
theorem Copies.pad
    {fitting : Fitting}
    {before after : Option Char}
    {stretch : List Char}
    {count : Nat}
    (copies : Copies fitting count before stretch after)
    (emptyFits : fitting before [] (ahead stretch after))
    (more : Nat) :
    Copies fitting (count + more) before stretch after := by
  induction more with
  | zero => exact copies
  | succ more inductionHypothesis =>
      exact ⟨[], stretch, rfl, emptyFits, inductionHypothesis⟩

/-- The first character belongs to one of the copies, and those before it are empty. -/
theorem copies_cons
    {fitting : Fitting}
    {before after : Option Char}
    {c : Char}
    {rest : List Char}
    {count : Nat}
    (copies : Copies fitting count before (c :: rest) after) :
    ∃ fewer < count,
      Joined (leftAfter fitting before c) (Copies fitting fewer) (some c) rest after ∧
        (fewer + 1 = count ∨ fitting before [] (some c)) := by
  induction count with
  | zero => exact absurd copies (List.cons_ne_nil c rest)
  | succ count inductionHypothesis =>
      rcases joined_cons_iff.mp copies with ⟨emptyFits, others⟩ | inFirst
      · obtain ⟨fewer, less, joined, -⟩ := inductionHypothesis others
        exact ⟨fewer, by omega, joined, .inr emptyFits⟩
      · exact ⟨count, by omega, inFirst, .inl rfl⟩

/-! ## The empty stretch -/

/-- A pattern is passed over at a place exactly if the empty stretch there fits it. -/
theorem nullable_iff
    {pattern : Pattern}
    {place : Place}
    (bounded : pattern.isBounded = true) :
    pattern.nullable place = true ↔ pattern.Fits place.before [] place.after := by
  induction pattern with
  | empty => simp [nullable, Fits]
  | one members => simp [nullable, Fits]
  | anchor condition => simp [nullable, Fits]
  | seq first second firstHypothesis secondHypothesis =>
      obtain ⟨firstBounded, secondBounded⟩ := Bool.and_eq_true_iff.mp bounded
      rw [nullable, Bool.and_eq_true, firstHypothesis firstBounded,
        secondHypothesis secondBounded]
      exact joined_nil_iff.symm
  | alt left right leftHypothesis rightHypothesis =>
      obtain ⟨leftBounded, rightBounded⟩ := Bool.and_eq_true_iff.mp bounded
      rw [nullable, Bool.or_eq_true, leftHypothesis leftBounded, rightHypothesis rightBounded]
      rfl
  | rep body least most bodyHypothesis =>
      obtain ⟨bodyBounded, leastAllowed⟩ := Bool.and_eq_true_iff.mp bounded
      rw [nullable, Bool.or_eq_true, decide_eq_true_eq, bodyHypothesis bodyBounded]
      constructor
      · intro passed
        have allowed : ∀ bound, most = some bound → least ≤ bound := by
          rintro bound rfl
          simpa using leastAllowed
        refine ⟨least, Nat.le_refl least, allowed, ?_⟩
        rcases passed with rfl | bodyFits
        · rfl
        · have none : Copies body.Fits 0 place.before [] place.after := rfl
          have padded := none.pad bodyFits least
          rwa [Nat.zero_add] at padded
      · rintro ⟨count, enough, -, copies⟩
        cases count with
        | zero => exact .inl (Nat.le_zero.mp enough)
        | succ count => exact .inr (joined_nil_iff.mp copies).1

/-! ## One character -/

theorem fits_andThen_iff
    {first second : Pattern}
    {before after : Option Char}
    {stretch : List Char} :
    (andThen first second).Fits before stretch after ↔
      Joined first.Fits second.Fits before stretch after := by
  unfold andThen
  split
  case isTrue isEmpty =>
    subst isEmpty
    exact joined_empty_iff.symm
  case isFalse => rfl

/-- What follows one of several patterns, as what follows the condition they stand for. -/
theorem exists_andThen_iff
    (fitting : Fitting)
    {firsts : List Pattern}
    {second : Pattern}
    {before after : Option Char}
    {stretch : List Char}
    (stands : ∀ {front after},
      (∃ first ∈ firsts, first.Fits before front after) ↔ fitting before front after) :
    (∃ pattern ∈ firsts.map (andThen · second), pattern.Fits before stretch after) ↔
      Joined fitting second.Fits before stretch after := by
  constructor
  · rintro ⟨pattern, member, fits⟩
    obtain ⟨first, inFirsts, rfl⟩ := List.mem_map.mp member
    obtain ⟨front, back, split, firstFits, secondFits⟩ := fits_andThen_iff.mp fits
    exact ⟨front, back, split, stands.mp ⟨first, inFirsts, firstFits⟩, secondFits⟩
  · rintro ⟨front, back, split, frontFits, secondFits⟩
    obtain ⟨first, inFirsts, firstFits⟩ := stands.mpr frontFits
    exact ⟨andThen first second, List.mem_map_of_mem inFirsts,
      fits_andThen_iff.mpr ⟨front, back, split, firstFits, secondFits⟩⟩

theorem isBounded_andThen
    {first second : Pattern}
    (firstBounded : first.isBounded = true)
    (secondBounded : second.isBounded = true) :
    (andThen first second).isBounded = true := by
  unfold andThen
  split
  case isTrue => exact secondBounded
  case isFalse => exact Bool.and_eq_true_iff.mpr ⟨firstBounded, secondBounded⟩

theorem isBounded_of_mem_residuals
    {pattern remaining : Pattern}
    {place : Place}
    {c : Char}
    (bounded : pattern.isBounded = true)
    (member : remaining ∈ pattern.residuals place c) :
    remaining.isBounded = true := by
  induction pattern generalizing remaining with
  | empty => simp [residuals] at member
  | one members =>
      unfold residuals at member
      split at member
      · rw [List.mem_singleton.mp member]
        rfl
      · simp at member
  | anchor condition => simp [residuals] at member
  | seq first second firstHypothesis secondHypothesis =>
      obtain ⟨firstBounded, secondBounded⟩ := Bool.and_eq_true_iff.mp bounded
      unfold residuals at member
      rcases List.mem_append.mp member with inFirst | inSecond
      · obtain ⟨left, inLeft, rfl⟩ := List.mem_map.mp inFirst
        exact isBounded_andThen (firstHypothesis firstBounded inLeft) secondBounded
      · split at inSecond
        · exact secondHypothesis secondBounded inSecond
        · simp at inSecond
  | alt left right leftHypothesis rightHypothesis =>
      obtain ⟨leftBounded, rightBounded⟩ := Bool.and_eq_true_iff.mp bounded
      unfold residuals at member
      rcases List.mem_append.mp member with inLeft | inRight
      · exact leftHypothesis leftBounded inLeft
      · exact rightHypothesis rightBounded inRight
  | rep body least most bodyHypothesis =>
      obtain ⟨bodyBounded, leastAllowed⟩ := Bool.and_eq_true_iff.mp bounded
      unfold residuals at member
      split at member
      · simp at member
      · obtain ⟨left, inLeft, rfl⟩ := List.mem_map.mp member
        refine isBounded_andThen (bodyHypothesis bodyBounded inLeft) ?_
        rw [isBounded, Bool.and_eq_true]
        refine ⟨bodyBounded, ?_⟩
        cases most with
        | none => rfl
        | some bound =>
            have allowed : least ≤ bound := by simpa using leastAllowed
            simp only [Option.map_some, Option.all_some, decide_eq_true_eq]
            split <;> omega

/-- A stretch that starts with a character fits a repetition exactly if a copy of the body takes
the character, and what remains fits the repetition that remains. -/
theorem fits_rep_cons_iff
    {body : Pattern}
    {least : Nat}
    {most : Option Nat}
    {before after : Option Char}
    {c : Char}
    {rest : List Char}
    (bounded : (rep body least most).isBounded = true)
    {passed : Bool}
    (passedIff : passed = true ↔ body.Fits before [] (some c)) :
    (rep body least most).Fits before (c :: rest) after ↔
      most ≠ some 0 ∧
        Joined (leftAfter body.Fits before c)
          (rep body (if passed then 0 else least - 1) (most.map (· - 1))).Fits
          (some c) rest after := by
  obtain ⟨-, leastAllowed⟩ := Bool.and_eq_true_iff.mp bounded
  constructor
  · rintro ⟨count, enough, within, copies⟩
    obtain ⟨fewer, less, ⟨front, back, split, inCopy, others⟩, reached⟩ := copies_cons copies
    constructor
    · rintro rfl
      have := within 0 rfl
      omega
    · refine ⟨front, back, split, inCopy, fewer, ?_, ?_, others⟩
      · split
        · exact Nat.zero_le fewer
        · rename_i notPassed
          rcases reached with full | emptyFits
          · omega
          · exact absurd (passedIff.mpr emptyFits) notPassed
      · intro bound isBound
        cases most with
        | none => simp at isBound
        | some limit =>
            have := within limit rfl
            simp only [Option.map_some, Option.some.injEq] at isBound
            omega
  · rintro ⟨notZero, front, back, rfl, inCopy, fewer, enough, within, others⟩
    have copies : Copies body.Fits (fewer + 1) before (c :: (front ++ back)) after :=
      joined_cons_iff.mpr (.inr ⟨front, back, rfl, inCopy, others⟩)
    have allowed : ∀ bound, most = some bound → fewer + 1 ≤ bound := by
      rintro bound rfl
      have positive : bound ≠ 0 := fun isZero => notZero (congrArg some isZero)
      have := within (bound - 1) rfl
      omega
    by_cases emptyFits : body.Fits before [] (some c)
    · -- The copies that are missing are empty ones before the character.
      refine ⟨fewer + 1 + (least - (fewer + 1)), by omega, ?_, copies.pad emptyFits _⟩
      rintro bound rfl
      have leastWithin : least ≤ bound := by simpa using leastAllowed
      have := allowed bound rfl
      omega
    · rw [if_neg (fun isPassed => emptyFits (passedIff.mp isPassed))] at enough
      exact ⟨fewer + 1, by omega, allowed, copies⟩

/-- One of the patterns that remain after a character fits the rest of a stretch exactly if the
given pattern fits the stretch. -/
theorem exists_residual_iff
    {pattern : Pattern}
    {before after : Option Char}
    {c : Char}
    {rest : List Char}
    (bounded : pattern.isBounded = true) :
    (∃ remaining ∈ pattern.residuals ⟨before, some c⟩ c, remaining.Fits (some c) rest after) ↔
      pattern.Fits before (c :: rest) after := by
  induction pattern generalizing rest after with
  | empty => simp [residuals, Fits]
  | one members =>
      constructor
      · rintro ⟨remaining, member, fits⟩
        unfold residuals at member
        split at member
        case isTrue isMember =>
          obtain rfl := List.mem_singleton.mp member
          obtain rfl : rest = [] := fits
          exact ⟨c, rfl, isMember⟩
        case isFalse => simp at member
      · rintro ⟨d, isOne, isMember⟩
        obtain ⟨rfl, rfl⟩ := List.cons_eq_cons.mp isOne
        exact ⟨empty, by simp [residuals, isMember], rfl⟩
  | anchor condition => simp [residuals, Fits]
  | seq first second firstHypothesis secondHypothesis =>
      obtain ⟨firstBounded, secondBounded⟩ := Bool.and_eq_true_iff.mp bounded
      have passed : first.nullable ⟨before, some c⟩ = true ↔ first.Fits before [] (some c) :=
        nullable_iff firstBounded
      have inFirst : (∃ remaining ∈ (first.residuals ⟨before, some c⟩ c).map (andThen · second),
          remaining.Fits (some c) rest after) ↔
            Joined (leftAfter first.Fits before c) second.Fits (some c) rest after :=
        exists_andThen_iff (leftAfter first.Fits before c) (firstHypothesis firstBounded)
      have inSecond : (∃ remaining ∈ second.residuals ⟨before, some c⟩ c,
          remaining.Fits (some c) rest after) ↔ second.Fits before (c :: rest) after :=
        secondHypothesis secondBounded
      show (∃ remaining ∈ _ ++ _, _) ↔ Joined first.Fits second.Fits before (c :: rest) after
      rw [joined_cons_iff, ← inFirst, ← inSecond, ← passed]
      cases first.nullable ⟨before, some c⟩ <;> simp [or_and_right, exists_or, or_comm]
  | alt left right leftHypothesis rightHypothesis =>
      obtain ⟨leftBounded, rightBounded⟩ := Bool.and_eq_true_iff.mp bounded
      show (∃ remaining ∈ _ ++ _, _) ↔
        left.Fits before (c :: rest) after ∨ right.Fits before (c :: rest) after
      rw [← leftHypothesis leftBounded, ← rightHypothesis rightBounded]
      simp [or_and_right, exists_or]
  | rep body least most bodyHypothesis =>
      obtain ⟨bodyBounded, -⟩ := Bool.and_eq_true_iff.mp bounded
      have passed : body.nullable ⟨before, some c⟩ = true ↔ body.Fits before [] (some c) :=
        nullable_iff bodyBounded
      rw [fits_rep_cons_iff bounded passed]
      unfold residuals
      split
      case isTrue isZero => simp [isZero]
      case isFalse notZero =>
        rw [exists_andThen_iff (leftAfter body.Fits before c) (bodyHypothesis bodyBounded)]
        exact (and_iff_right notZero).symm

/-! ## The search -/

/-- Holds if some stretch of `rest`, wherever it starts, fits the pattern. -/
def FitsWithin (pattern : Pattern) (before : Option Char) (rest : List Char) : Prop :=
  ∃ front stretch back, rest = front ++ (stretch ++ back) ∧
    pattern.Fits (behind before front) stretch back.head?

/-- Holds if a stretch of `rest` that starts here fits the pattern. -/
def FitsHere (pattern : Pattern) (before : Option Char) (rest : List Char) : Prop :=
  ∃ stretch back, rest = stretch ++ back ∧ pattern.Fits before stretch back.head?

theorem fitsHere_nil_iff
    {pattern : Pattern}
    {before : Option Char} :
    FitsHere pattern before [] ↔ pattern.Fits before [] none := by
  constructor
  · rintro ⟨stretch, back, split, fits⟩
    obtain ⟨rfl, rfl⟩ := List.append_eq_nil_iff.mp split.symm
    exact fits
  · intro fits
    exact ⟨[], [], rfl, fits⟩

theorem fitsHere_cons_iff
    {pattern : Pattern}
    {before : Option Char}
    {c : Char}
    {rest : List Char}
    (bounded : pattern.isBounded = true) :
    FitsHere pattern before (c :: rest) ↔
      pattern.nullable ⟨before, some c⟩ = true ∨
        ∃ remaining ∈ pattern.residuals ⟨before, some c⟩ c, FitsHere remaining (some c) rest := by
  constructor
  · rintro ⟨stretch, back, split, fits⟩
    cases stretch with
    | nil =>
        rw [List.nil_append] at split
        subst split
        exact .inl ((nullable_iff bounded).mpr fits)
    | cons d more =>
        rw [List.cons_append, List.cons.injEq] at split
        obtain ⟨rfl, rfl⟩ := split
        obtain ⟨remaining, member, remainingFits⟩ := (exists_residual_iff bounded).mpr fits
        exact .inr ⟨remaining, member, more, back, rfl, remainingFits⟩
  · rintro (passed | ⟨remaining, member, stretch, back, rfl, fits⟩)
    · exact ⟨[], c :: rest, rfl, (nullable_iff bounded).mp passed⟩
    · exact ⟨c :: stretch, back, rfl, (exists_residual_iff bounded).mp ⟨remaining, member, fits⟩⟩

/-- Of several patterns one is fitted here exactly if one can be passed over, or one of those that
remain after the first character is fitted by what follows. -/
theorem exists_fitsHere_cons_iff
    {patterns : List Pattern}
    {before : Option Char}
    {c : Char}
    {rest : List Char}
    (bounded : ∀ pattern ∈ patterns, pattern.isBounded = true) :
    (∃ pattern ∈ patterns, FitsHere pattern before (c :: rest)) ↔
      (∃ pattern ∈ patterns, pattern.nullable ⟨before, some c⟩ = true) ∨
        ∃ remaining ∈ patterns.flatMap (residuals ⟨before, some c⟩ c),
          FitsHere remaining (some c) rest := by
  constructor
  · rintro ⟨pattern, member, fits⟩
    rcases (fitsHere_cons_iff (bounded pattern member)).mp fits with
      passed | ⟨remaining, inResiduals, remainingFits⟩
    · exact .inl ⟨pattern, member, passed⟩
    · exact .inr ⟨remaining, List.mem_flatMap.mpr ⟨pattern, member, inResiduals⟩, remainingFits⟩
  · rintro (⟨pattern, member, passed⟩ | ⟨remaining, inFlat, remainingFits⟩)
    · exact ⟨pattern, member, (fitsHere_cons_iff (bounded pattern member)).mpr (.inl passed)⟩
    · obtain ⟨pattern, member, inResiduals⟩ := List.mem_flatMap.mp inFlat
      exact ⟨pattern, member, (fitsHere_cons_iff (bounded pattern member)).mpr
        (.inr ⟨remaining, inResiduals, remainingFits⟩)⟩

theorem fitsWithin_nil_iff
    {pattern : Pattern}
    {before : Option Char} :
    FitsWithin pattern before [] ↔ FitsHere pattern before [] := by
  constructor
  · rintro ⟨front, stretch, back, split, fits⟩
    obtain ⟨rfl, rest⟩ := List.append_eq_nil_iff.mp split.symm
    exact ⟨stretch, back, rest.symm, fits⟩
  · rintro ⟨stretch, back, split, fits⟩
    exact ⟨[], stretch, back, split, fits⟩

theorem fitsWithin_cons_iff
    {pattern : Pattern}
    {before : Option Char}
    {c : Char}
    {rest : List Char} :
    FitsWithin pattern before (c :: rest) ↔
      FitsHere pattern before (c :: rest) ∨ FitsWithin pattern (some c) rest := by
  constructor
  · rintro ⟨front, stretch, back, split, fits⟩
    cases front with
    | nil => exact .inl ⟨stretch, back, split, fits⟩
    | cons d more =>
        rw [List.cons_append, List.cons.injEq] at split
        obtain ⟨rfl, rfl⟩ := split
        rw [behind_cons] at fits
        exact .inr ⟨more, stretch, back, rfl, fits⟩
  · rintro (⟨stretch, back, split, fits⟩ | ⟨front, stretch, back, rfl, fits⟩)
    · exact ⟨[], stretch, back, split, fits⟩
    · refine ⟨c :: front, stretch, back, rfl, ?_⟩
      rw [behind_cons]
      exact fits

/-- The search follows the patterns that have begun to fit, and begins the given one anew at each
place. -/
theorem occursAfter_iff
    {pattern : Pattern}
    {before : Option Char}
    {live : List Pattern}
    {rest : List Char}
    (bounded : pattern.isBounded = true)
    (liveBounded : ∀ remaining ∈ live, remaining.isBounded = true) :
    occursAfter pattern before live rest = true ↔
      (∃ remaining ∈ live, FitsHere remaining before rest) ∨ FitsWithin pattern before rest := by
  induction rest generalizing before live with
  | nil =>
      have allBounded : ∀ remaining ∈ pattern :: live, remaining.isBounded = true :=
        List.forall_mem_cons.mpr ⟨bounded, liveBounded⟩
      have passed : ∀ remaining ∈ pattern :: live,
          (remaining.nullable ⟨before, none⟩ = true ↔ FitsHere remaining before []) := by
        intro remaining member
        rw [fitsHere_nil_iff]
        exact nullable_iff (allBounded remaining member)
      rw [occursAfter, List.any_eq_true, fitsWithin_nil_iff]
      simp only [List.mem_cons, exists_eq_or_imp]
      rw [passed pattern List.mem_cons_self, or_comm]
      refine or_congr_left (exists_congr fun remaining => and_congr_right fun member => ?_)
      exact passed remaining (List.mem_cons_of_mem pattern member)
  | cons c rest inductionHypothesis =>
      have allBounded : ∀ remaining ∈ pattern :: live, remaining.isBounded = true :=
        List.forall_mem_cons.mpr ⟨bounded, liveBounded⟩
      have nextBounded : ∀ next ∈ (pattern :: live).eraseDups.flatMap
          (residuals ⟨before, some c⟩ c), next.isBounded = true := by
        intro next inFlat
        obtain ⟨remaining, member, inResiduals⟩ := List.mem_flatMap.mp inFlat
        exact isBounded_of_mem_residuals
          (allBounded remaining (List.mem_eraseDups.mp member)) inResiduals
      have sought : (∃ remaining ∈ live, FitsHere remaining before (c :: rest)) ∨
          FitsWithin pattern before (c :: rest) ↔
            (∃ remaining ∈ pattern :: live, FitsHere remaining before (c :: rest)) ∨
              FitsWithin pattern (some c) rest := by
        rw [fitsWithin_cons_iff]
        simp only [List.mem_cons, exists_eq_or_imp]
        exact or_assoc.symm.trans (or_congr_left or_comm)
      rw [sought, exists_fitsHere_cons_iff allBounded, or_assoc]
      unfold occursAfter
      simp only []
      split
      case isTrue passed =>
        obtain ⟨remaining, member, isNullable⟩ := List.any_eq_true.mp passed
        have found : ∃ remaining ∈ pattern :: live,
            remaining.nullable ⟨before, some c⟩ = true :=
          ⟨remaining, List.mem_eraseDups.mp member, isNullable⟩
        simp only [found, true_or]
      case isFalse notPassed =>
        have none : ¬∃ remaining ∈ pattern :: live,
            remaining.nullable ⟨before, some c⟩ = true := by
          rintro ⟨remaining, member, isNullable⟩
          exact notPassed (List.any_eq_true.mpr
            ⟨remaining, List.mem_eraseDups.mpr member, isNullable⟩)
        rw [inductionHypothesis nextBounded, or_iff_right none]
        simp only [List.mem_flatMap, List.mem_eraseDups]

/-- The search finds a pattern in a text exactly if a stretch of the text fits it. -/
theorem occursIn_iff
    {pattern : Pattern}
    {text : String}
    (bounded : pattern.isBounded = true) :
    pattern.occursIn text = true ↔ FitsWithin pattern none text.toList := by
  unfold occursIn
  rw [occursAfter_iff bounded (by simp)]
  simp

end SealedEnv.Pattern
