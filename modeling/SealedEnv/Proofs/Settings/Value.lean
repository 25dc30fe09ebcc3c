import SealedEnv.Proofs.Number.Reader
import SealedEnv.Settings.Value

/-!
Contract: what a text is taken for before anything is known of the setting that it is given to.

Owns:
- the texts that `Value.guess` takes for each kind of value;
- the bound of what a value is read as where a whole number is asked for.

Does not own: which settings are given, and what their values are printed as.
-/

namespace SealedEnv.Settings

theorem guess_eq_truth_iff {text : String} {holds : Bool} :
    Value.guess text = .truth holds ↔ small text = toString holds := by
  unfold Value.guess
  by_cases isTrue : small text = "true"
  · rw [if_pos isTrue, isTrue]
    cases holds <;> decide
  · rw [if_neg isTrue]
    by_cases isFalse : small text = "false"
    · rw [if_pos isFalse, isFalse]
      cases holds <;> decide
    · rw [if_neg isFalse]
      have notWord : small text ≠ toString holds := by
        cases holds
        · exact isFalse
        · exact isTrue
      refine iff_of_false ?_ notWord
      intro reads
      split at reads
      · cases reads
      · split at reads <;> cases reads

/-- A whole number has no letter of a truth word. -/
theorem small_ne_of_integer?
    {text : String}
    {number : Int}
    (reads : Number.integer? text.toList = some number)
    (holds : Bool) :
    small text ≠ toString holds := by
  intro isWord
  have letters := congrArg String.toList isWord
  rw [small, String.toList_ofList] at letters
  have last : 'e' ∈ text.toList.map Char.toLower := by
    rw [letters]
    cases holds <;> decide
  obtain ⟨c, member, lowered⟩ := List.mem_map.mp last
  obtain ⟨isWhole, -⟩ := Number.integer?_eq_some_iff.mp reads
  rcases Number.isDigit_of_wholeNumber? isWhole member with isSign | isDigit
  · have signs : '-'.toLower ≠ 'e' ∧ '+'.toLower ≠ 'e' := by decide
    simp only [List.mem_cons, List.not_mem_nil, or_false] at isSign
    rcases isSign with rfl | rfl
    · exact signs.1 lowered
    · exact signs.2 lowered
  · have digits : ∀ n < 10, n.digitChar.toLower ≠ 'e' := by decide
    obtain ⟨low, high⟩ := Number.toNat_of_isDigit isDigit
    rw [← Number.digitChar_of_isDigit isDigit] at lowered
    exact digits (c.toNat - 48) (by omega) lowered

theorem guess_eq_of_not_truth
    {text : String}
    (notWord : ∀ holds : Bool, small text ≠ toString holds) :
    Value.guess text =
      match Number.integer? text.toList with
      | some number => .integer number
      | none => (Number.real? text.toList).elim (.text text) .real := by
  have notTrue : small text ≠ "true" := notWord true
  have notFalse : small text ≠ "false" := notWord false
  unfold Value.guess
  rw [if_neg notTrue, if_neg notFalse]
  cases Number.integer? text.toList with
  | some number => rfl
  | none => cases Number.real? text.toList <;> rfl

theorem guess_eq_integer_iff {text : String} {number : Int} :
    Value.guess text = .integer number ↔ Number.integer? text.toList = some number := by
  constructor
  · intro reads
    have notWord : ∀ holds : Bool, small text ≠ toString holds := by
      intro holds isWord
      rw [guess_eq_truth_iff.mpr isWord] at reads
      cases reads
    rw [guess_eq_of_not_truth notWord] at reads
    cases isInteger : Number.integer? text.toList with
    | some other =>
        rw [isInteger] at reads
        cases reads
        rfl
    | none =>
        rw [isInteger] at reads
        cases isReal : Number.real? text.toList <;> rw [isReal] at reads <;> cases reads
  · intro isInteger
    rw [guess_eq_of_not_truth (small_ne_of_integer? isInteger), isInteger]

/-- What is taken for a text is taken for itself. -/
theorem eq_of_guess_eq_text
    {text held : String}
    (reads : Value.guess text = .text held) :
    held = text := by
  have notWord : ∀ holds : Bool, small text ≠ toString holds := by
    intro holds isWord
    rw [guess_eq_truth_iff.mpr isWord] at reads
    cases reads
  rw [guess_eq_of_not_truth notWord] at reads
  cases isInteger : Number.integer? text.toList with
  | some number =>
      rw [isInteger] at reads
      cases reads
  | none =>
      rw [isInteger] at reads
      cases isReal : Number.real? text.toList with
      | some number =>
          rw [isReal] at reads
          cases reads
      | none =>
          rw [isReal] at reads
          cases reads
          rfl

/-- A text with a letter that occurs in no number and no truth word is taken for a text. -/
theorem guess_of_foreign
    {text : String}
    {c : Char}
    (member : c ∈ text.toList)
    (foreign : Number.isValueLetter c = false) :
    Value.guess text = .text text := by
  have notWord : ∀ holds : Bool, small text ≠ toString holds := by
    intro holds isWord
    have letters := congrArg String.toList isWord
    rw [small, String.toList_ofList] at letters
    have lowered : c.toLower ∈ (toString holds).toList := letters ▸ List.mem_map_of_mem member
    have isLetter := Number.isValueLetter_of_toLower (by cases holds <;> decide) lowered
    rw [foreign] at isLetter
    contradiction
  have notInteger : Number.integer? text.toList = none := by
    apply Option.eq_none_iff_forall_ne_some.mpr
    intro number isInteger
    obtain ⟨isWhole, -⟩ := Number.integer?_eq_some_iff.mp isInteger
    rw [Number.isValueLetter_of_wholeNumber? isWhole member] at foreign
    contradiction
  have notReal : Number.real? text.toList = none := by
    apply Option.eq_none_iff_forall_ne_some.mpr
    intro number isReal
    rw [Number.isValueLetter_of_real? isReal member] at foreign
    contradiction
  rw [guess_eq_of_not_truth notWord, notInteger, notReal]
  rfl

/-! ## Whole numbers -/

end SealedEnv.Settings
