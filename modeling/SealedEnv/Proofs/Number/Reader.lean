import Mathlib.Data.List.TakeDrop
import SealedEnv.Number.Reader

/-!
Contract: which texts are read as numbers, and which of these are the printed ones.

Owns:
- `IsNumeral`, digits without needless zeros in front, and its two round trips;
- `IsInteger`, a numeral or a minus sign with one that is not zero;
- what `integer?` reads of printed numbers, and which of the texts that it reads are printed ones;
- the letters that occur in numbers of any kind.

Does not own: how numbers with a point or an exponent are printed.
-/

namespace SealedEnv.Number

/-! ## Numerals -/

/-- Holds of digits with no zero in front, unless there is no other digit. -/
structure IsNumeral (text : List Char) : Prop where
  nonempty : text ≠ []
  digits : ∀ c ∈ text, c.isDigit = true
  noZeros : text.head? = some '0' → text = ['0']

theorem toNat_of_isDigit {c : Char} (isDigit : c.isDigit = true) :
    48 ≤ c.toNat ∧ c.toNat ≤ 57 := by
  simpa [Char.isDigit, UInt32.le_iff_toNat_le] using isDigit

theorem digitChar_of_isDigit {c : Char} (isDigit : c.isDigit = true) :
    (c.toNat - 48).digitChar = c := by
  obtain ⟨low, high⟩ := toNat_of_isDigit isDigit
  have every : ∀ n < 10, n.digitChar.toNat = n + 48 := by decide
  have value := every (c.toNat - 48) (by omega)
  apply Char.toNat_inj.mp
  omega

theorem ofDigits_toDigits (n : Nat) : ofDigits (Nat.toDigits 10 n) = n := by
  have same : ofDigits (Nat.toDigits 10 n) = Nat.ofDigitChars 10 (Nat.toDigits 10 n) 0 := by
    unfold ofDigits Nat.ofDigitChars
    congr 1
    funext value digit
    rw [Nat.mul_comm]
    rfl
  rw [same, Nat.ofDigitChars_ten_toDigits]

/-- Digits that are read behind a number other than zero are printed behind it. -/
theorem toDigits_foldl
    {digits : List Char}
    (allDigits : ∀ c ∈ digits, c.isDigit = true)
    {value : Nat}
    (positive : 0 < value) :
    Nat.toDigits 10 (digits.foldl (fun value digit => value * 10 + (digit.toNat - 48)) value) =
      Nat.toDigits 10 value ++ digits := by
  induction digits generalizing value with
  | nil => rw [List.foldl_nil, List.append_nil]
  | cons c rest inductionHypothesis =>
      have isDigit := allDigits c List.mem_cons_self
      obtain ⟨low, high⟩ := toNat_of_isDigit isDigit
      have small : c.toNat - 48 < 10 := by omega
      have next := Nat.toDigits_append_toDigits (by decide) positive small
      rw [Nat.toDigits_of_lt_base small, digitChar_of_isDigit isDigit, Nat.mul_comm] at next
      rw [List.foldl_cons,
        inductionHypothesis (fun d member => allDigits d (List.mem_cons_of_mem c member))
          (by omega),
        ← next, List.append_assoc, List.singleton_append]

/-- A numeral is the one that its value is printed as. -/
theorem IsNumeral.toDigits_ofDigits {text : List Char} (numeral : IsNumeral text) :
    Nat.toDigits 10 (ofDigits text) = text := by
  obtain ⟨nonempty, allDigits, noZeros⟩ := numeral
  cases text with
  | nil => exact absurd rfl nonempty
  | cons c rest =>
      by_cases zero : c = '0'
      · rw [noZeros (by rw [zero, List.head?_cons])]
        rfl
      · have isDigit := allDigits c List.mem_cons_self
        obtain ⟨low, high⟩ := toNat_of_isDigit isDigit
        have other : c.toNat ≠ 48 := fun same => zero (Char.toNat_inj.mp same)
        have small : c.toNat - 48 < 10 := by omega
        have positive : 0 < 0 * 10 + (c.toNat - 48) := by omega
        have printed := toDigits_foldl
          (fun d member => allDigits d (List.mem_cons_of_mem c member)) positive
        rw [ofDigits, List.foldl_cons, printed, Nat.zero_mul, Nat.zero_add,
          Nat.toDigits_of_lt_base small, digitChar_of_isDigit isDigit, List.singleton_append]

theorem isNumeral_toDigits (n : Nat) : IsNumeral (Nat.toDigits 10 n) where
  nonempty := Nat.toDigits_ne_nil
  digits := fun _ => Nat.isDigit_of_mem_toDigits (by decide) (by decide)
  noZeros := by
    induction n using Nat.strongRecOn with
    | ind n inductionHypothesis =>
        by_cases small : n < 10
        · have single : ∀ n < 10, [n.digitChar].head? = some '0' → [n.digitChar] = ['0'] := by
            decide
          rw [Nat.toDigits_of_lt_base small]
          exact single n small
        · intro zero
          rw [Nat.toDigits_of_base_le (by decide) (Nat.le_of_not_lt small),
            List.head?_append, Option.or_of_isSome (by simp)] at zero
          have tenth := congrArg ofDigits (inductionHypothesis (n / 10) (by omega) zero)
          rw [ofDigits_toDigits, show ofDigits ['0'] = 0 from rfl] at tenth
          omega

/-! ## Whole numbers -/

/-- Holds of the numerals and of those that follow a minus sign and are not zero. -/
def IsInteger (text : List Char) : Prop :=
  IsNumeral text ∨ ∃ digits, text = '-' :: digits ∧ IsNumeral digits ∧ digits ≠ ['0']

theorem toList_toString_natCast (n : Nat) : (toString (n : Int)).toList = Nat.toDigits 10 n := by
  rw [Int.toString_eq_repr, Int.repr_eq_if, if_pos (Int.natCast_nonneg n), Int.toNat_natCast,
    Nat.repr_eq_ofList_toDigits, String.toList_ofList]

theorem toList_toString_neg {n : Nat} (positive : 0 < n) :
    (toString (-(n : Int))).toList = '-' :: Nat.toDigits 10 n := by
  rw [Int.toString_eq_repr, Int.repr_eq_if, if_neg (by omega), Int.neg_neg, Int.toNat_natCast,
    Nat.repr_eq_ofList_toDigits, String.toList_append]
  simp

theorem splitSign_of_isDigit {digits : List Char} (allDigits : ∀ c ∈ digits, c.isDigit = true) :
    splitSign digits = (false, digits) := by
  unfold splitSign
  split
  · exact absurd (allDigits '-' List.mem_cons_self) (by decide)
  · exact absurd (allDigits '+' List.mem_cons_self) (by decide)
  · rfl

section Read

variable {digits : List Char} (numeral : IsNumeral digits)

include numeral

theorem IsNumeral.wholeNumber? : wholeNumber? digits = some (ofDigits digits : Int) := by
  have nonempty : digits.isEmpty = false := List.isEmpty_eq_false_iff.mpr numeral.nonempty
  have allDigits : digits.all Char.isDigit = true := List.all_eq_true.mpr numeral.digits
  simp only [Number.wholeNumber?, splitSign_of_isDigit numeral.digits, nonempty, allDigits]
  rfl

theorem IsNumeral.wholeNumber?_minus :
    Number.wholeNumber? ('-' :: digits) = some (-(ofDigits digits : Int)) := by
  have nonempty : digits.isEmpty = false := List.isEmpty_eq_false_iff.mpr numeral.nonempty
  have allDigits : digits.all Char.isDigit = true := List.all_eq_true.mpr numeral.digits
  simp only [Number.wholeNumber?, splitSign, nonempty, allDigits]
  rfl

end Read

theorem exists_neg_natCast {number : Int} (negative : number < 0) :
    ∃ n : Nat, 0 < n ∧ number = -(n : Int) :=
  ⟨(-number).toNat, by omega, by omega⟩

/-- Whole numbers are read back from the texts that they are printed as. -/
theorem wholeNumber?_toString (number : Int) :
    wholeNumber? (toString number).toList = some number := by
  by_cases negative : number < 0
  · obtain ⟨n, positive, rfl⟩ := exists_neg_natCast negative
    rw [toList_toString_neg positive, (isNumeral_toDigits n).wholeNumber?_minus,
      ofDigits_toDigits]
  · obtain ⟨n, rfl⟩ := Int.eq_ofNat_of_zero_le (Int.not_lt.mp negative)
    rw [toList_toString_natCast, (isNumeral_toDigits n).wholeNumber?, ofDigits_toDigits]

theorem isInteger_toString (number : Int) : IsInteger (toString number).toList := by
  by_cases negative : number < 0
  · obtain ⟨n, positive, rfl⟩ := exists_neg_natCast negative
    rw [toList_toString_neg positive]
    refine .inr ⟨_, rfl, isNumeral_toDigits n, ?_⟩
    intro zero
    have value := congrArg ofDigits zero
    rw [ofDigits_toDigits, show ofDigits ['0'] = 0 from rfl] at value
    omega
  · obtain ⟨n, rfl⟩ := Int.eq_ofNat_of_zero_le (Int.not_lt.mp negative)
    rw [toList_toString_natCast]
    exact .inl (isNumeral_toDigits n)

/-- Whole numbers are printed as the numerals, with a minus sign or without. -/
theorem exists_toString_iff {text : String} :
    (∃ number : Int, toString number = text) ↔ IsInteger text.toList := by
  constructor
  · rintro ⟨number, rfl⟩
    exact isInteger_toString number
  · rintro (numeral | ⟨digits, isText, numeral, notZero⟩)
    · refine ⟨ofDigits text.toList, String.toList_inj.mp ?_⟩
      rw [toList_toString_natCast, numeral.toDigits_ofDigits]
    · have positive : 0 < ofDigits digits := by
        apply Nat.pos_of_ne_zero
        intro zero
        have printed := numeral.toDigits_ofDigits
        rw [zero] at printed
        exact notZero printed.symm
      refine ⟨-(ofDigits digits : Int), String.toList_inj.mp ?_⟩
      rw [toList_toString_neg positive, numeral.toDigits_ofDigits, isText]

/-- Holds of the whole numbers of sixty-four bits with a sign. -/
def Fits (number : Int) : Prop := -(Nat.pow 2 63 : Nat) ≤ number ∧ number < (Nat.pow 2 63 : Nat)

theorem integer?_eq_some_iff {text : List Char} {number : Int} :
    integer? text = some number ↔ wholeNumber? text = some number ∧ Fits number := by
  rw [integer?, Option.filter_eq_some_iff, Bool.and_eq_true, decide_eq_true_eq, decide_eq_true_eq,
    Fits]

/-- A text that is read as a whole number is the one that the number is printed as exactly if it is
a numeral, with a minus sign or without. -/
theorem toString_eq_iff
    {text : String}
    {number : Int}
    (reads : integer? text.toList = some number) :
    toString number = text ↔ IsInteger text.toList := by
  constructor
  · rintro rfl
    exact isInteger_toString number
  · intro isInteger
    obtain ⟨other, rfl⟩ := exists_toString_iff.mpr isInteger
    have same := (integer?_eq_some_iff.mp reads).1
    rw [wholeNumber?_toString, Option.some.injEq] at same
    rw [same]

/-! ## Letters -/

/-- Holds of the letters of numbers and of truth words, in either case. -/
def isValueLetter (c : Char) : Bool :=
  c.isDigit || "+-.aefilnrstuy".toList.contains c.toLower

theorem isValueLetter_of_isDigit {c : Char} (isDigit : c.isDigit = true) :
    isValueLetter c = true := by
  rw [isValueLetter, isDigit, Bool.true_or]

theorem isValueLetter_of_toLower
    {word : List Char}
    (letters : word.all ("+-.aefilnrstuy".toList.contains ·) = true)
    {c : Char}
    (member : c.toLower ∈ word) :
    isValueLetter c = true := by
  rw [isValueLetter, List.all_eq_true.mp letters _ member, Bool.or_true]

theorem mem_of_mem_splitSign {text : List Char} {c : Char} (member : c ∈ text) :
    c ∈ ['-', '+'] ∨ c ∈ (splitSign text).2 := by
  unfold splitSign
  split
  · rcases List.mem_cons.mp member with rfl | later
    · exact .inl (by decide)
    · exact .inr later
  · rcases List.mem_cons.mp member with rfl | later
    · exact .inl (by decide)
    · exact .inr later
  · exact .inr member

theorem isValueLetter_of_sign {c : Char} (isSign : c ∈ ['-', '+']) : isValueLetter c = true :=
  List.all_eq_true.mp (show ['-', '+'].all isValueLetter = true by decide) c isSign

/-- A whole number has nothing but digits and signs. -/
theorem isDigit_of_wholeNumber?
    {text : List Char}
    {number : Int}
    (reads : wholeNumber? text = some number)
    {c : Char}
    (member : c ∈ text) :
    c ∈ ['-', '+'] ∨ c.isDigit = true := by
  unfold wholeNumber? at reads
  simp only [] at reads
  split at reads
  · contradiction
  · rename_i digits
    rw [Bool.or_eq_true, not_or, Bool.not_eq_true', Bool.not_eq_false] at digits
    exact (mem_of_mem_splitSign member).imp_right (List.all_eq_true.mp digits.2 c)

theorem isValueLetter_of_wholeNumber?
    {text : List Char}
    {number : Int}
    (reads : wholeNumber? text = some number)
    {c : Char}
    (member : c ∈ text) :
    isValueLetter c = true :=
  (isDigit_of_wholeNumber? reads member).elim isValueLetter_of_sign isValueLetter_of_isDigit

theorem isValueLetter_of_exponent?
    {text : List Char}
    {exponent : Int}
    (reads : exponent? text = some exponent)
    {c : Char}
    (member : c ∈ text) :
    isValueLetter c = true := by
  cases text with
  | nil => cases member
  | cons mark rest =>
      rw [exponent?] at reads
      split at reads
      · rename_i isMark
        rcases List.mem_cons.mp member with rfl | later
        · rw [Bool.or_eq_true, decide_eq_true_eq, decide_eq_true_eq] at isMark
          rcases isMark with rfl | rfl <;> decide
        · exact isValueLetter_of_wholeNumber? reads later
      · contradiction

theorem mem_of_mem_span_isDigit {text : List Char} {c : Char} (member : c ∈ text) :
    isValueLetter c = true ∨ c ∈ (text.span Char.isDigit).2 := by
  rw [List.span_eq_takeWhile_dropWhile]
  rw [← List.takeWhile_append_dropWhile (p := Char.isDigit) (l := text), List.mem_append] at member
  rcases member with inDigits | inRest
  · exact .inl (isValueLetter_of_isDigit (List.all_eq_true.mp List.all_takeWhile c inDigits))
  · exact .inr inRest

theorem mem_of_mem_splitFraction {text : List Char} {c : Char} (member : c ∈ text) :
    isValueLetter c = true ∨ c ∈ (splitFraction text).2 := by
  unfold splitFraction
  split
  · rcases List.mem_cons.mp member with rfl | later
    · exact .inl (by decide)
    · exact mem_of_mem_span_isDigit later
  · exact .inr member

theorem isValueLetter_of_unsigned?
    {negative : Bool}
    {text : List Char}
    {number : Binary64}
    (reads : unsigned? negative text = some number)
    {c : Char}
    (member : c ∈ text) :
    isValueLetter c = true := by
  unfold unsigned? at reads
  simp only [] at reads
  split at reads
  · contradiction
  · obtain ⟨exponent, isExponent, -⟩ := Option.bind_eq_some_iff.mp reads
    rcases mem_of_mem_span_isDigit member with letter | inRest
    · exact letter
    · rcases mem_of_mem_splitFraction inRest with letter | inExponent
      · exact letter
      · exact isValueLetter_of_exponent? isExponent inExponent

theorem isValueLetter_of_word
    (word : List Char)
    {rest : List Char}
    (letters : word.all ("+-.aefilnrstuy".toList.contains ·) = true)
    (isWord : String.ofList (rest.map Char.toLower) = String.ofList word)
    {c : Char}
    (member : c ∈ rest) :
    isValueLetter c = true := by
  have lowered := String.ofList_injective isWord
  exact isValueLetter_of_toLower letters (lowered ▸ List.mem_map_of_mem member)

theorem isValueLetter_of_real?
    {text : List Char}
    {number : Binary64}
    (reads : real? text = some number)
    {c : Char}
    (member : c ∈ text) :
    isValueLetter c = true := by
  rcases mem_of_mem_splitSign member with isSign | inRest
  · exact isValueLetter_of_sign isSign
  · unfold real? at reads
    simp only [] at reads
    split at reads
    · rename_i isInfinity
      rw [Bool.or_eq_true, decide_eq_true_eq, decide_eq_true_eq] at isInfinity
      rcases isInfinity with isShort | isLong
      · exact isValueLetter_of_word "inf".toList (by decide) isShort inRest
      · exact isValueLetter_of_word "infinity".toList (by decide) isLong inRest
    · split at reads
      · rename_i isNan
        exact isValueLetter_of_word "nan".toList (by decide) isNan inRest
      · exact isValueLetter_of_unsigned? reads inRest

end SealedEnv.Number
