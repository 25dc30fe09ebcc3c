import SealedEnv.KeyName
import SealedEnv.Text.Blank

/-!
Contract: the characters and the names of the two grammars of key names.

Owns:
- the codes of the characters of names, none of which is blank;
- the parts of a name;
- the law that every stored name is a requested one.

Does not own: where in an env file names stand.
-/

namespace SealedEnv

namespace KeyName

/-! ## Characters of names -/

section Codes

variable {c : Char}

theorem isUpper_iff : c.isUpper = true ↔ 65 ≤ c.toNat ∧ c.toNat ≤ 90 := decide_eq_true_iff

theorem isLower_iff : c.isLower = true ↔ 97 ≤ c.toNat ∧ c.toNat ≤ 122 := by
  change (decide (c.val ≥ 'a'.val) && decide (c.val ≤ 'z'.val)) = true ↔ _
  rw [Bool.and_eq_true, decide_eq_true_iff, decide_eq_true_iff]
  rfl

theorem isDigit_iff : c.isDigit = true ↔ 48 ≤ c.toNat ∧ c.toNat ≤ 57 := by
  change (decide (c.val ≥ '0'.val) && decide (c.val ≤ '9'.val)) = true ↔ _
  rw [Bool.and_eq_true, decide_eq_true_iff, decide_eq_true_iff]
  rfl

theorem beq_underscore_iff : (c == '_') = true ↔ c.toNat = 95 := by
  rw [beq_iff_eq, ← Char.toNat_inj]
  rfl

theorem startsStored_iff : startsStored c = true ↔ 65 ≤ c.toNat ∧ c.toNat ≤ 90 := isUpper_iff

theorem continuesStored_iff :
    continuesStored c = true ↔
      ((65 ≤ c.toNat ∧ c.toNat ≤ 90) ∨ (48 ≤ c.toNat ∧ c.toNat ≤ 57)) ∨ c.toNat = 95 := by
  rw [continuesStored, Bool.or_eq_true, Bool.or_eq_true, isUpper_iff, isDigit_iff,
    beq_underscore_iff]

theorem startsRequest_iff :
    startsRequest c = true ↔
      ((65 ≤ c.toNat ∧ c.toNat ≤ 90) ∨ (97 ≤ c.toNat ∧ c.toNat ≤ 122)) ∨ c.toNat = 95 := by
  change ((c.isUpper || c.isLower) || c == '_') = true ↔ _
  rw [Bool.or_eq_true, Bool.or_eq_true, isUpper_iff, isLower_iff, beq_underscore_iff]

/-- A character of a name is a printable ASCII character other than a separator or a quote. -/
theorem continuesRequest_iff :
    continuesRequest c = true ↔
      (((65 ≤ c.toNat ∧ c.toNat ≤ 90) ∨ (97 ≤ c.toNat ∧ c.toNat ≤ 122)) ∨
        (48 ≤ c.toNat ∧ c.toNat ≤ 57)) ∨ c.toNat = 95 := by
  change (((c.isUpper || c.isLower) || c.isDigit) || c == '_') = true ↔ _
  rw [Bool.or_eq_true, Bool.or_eq_true, Bool.or_eq_true, isUpper_iff, isLower_iff, isDigit_iff,
    beq_underscore_iff]

theorem continuesRequest_of_startsRequest (starts : startsRequest c = true) :
    continuesRequest c = true := by
  rw [startsRequest_iff] at starts
  rw [continuesRequest_iff]
  omega

theorem isBlank_of_continuesRequest (continues : continuesRequest c = true) :
    Text.isBlank c = false := by
  rw [continuesRequest_iff] at continues
  simp only [Text.isBlank, Bool.or_eq_false_iff, Bool.and_eq_false_iff, decide_eq_false_iff_not,
    beq_eq_false_iff_ne]
  omega

end Codes

/-! ## Names -/

theorem fits_iff
    {starts continues : Char → Bool}
    {name : List Char} :
    fits starts continues name = true ↔
      ∃ first rest, name = first :: rest ∧ starts first = true ∧
        ∀ c ∈ rest, continues c = true := by
  cases name with
  | nil => simp [fits]
  | cons first rest =>
      rw [fits, Bool.and_eq_true, List.all_eq_true]
      constructor
      · intro parts
        exact ⟨first, rest, rfl, parts⟩
      · intro ⟨_, _, same, parts⟩
        obtain ⟨rfl, rfl⟩ := List.cons.inj same
        exact parts

end KeyName

open KeyName

theorem exists_cons_of_isRequestKey
    {key : String}
    (validKey : isRequestKey key = true) :
    ∃ first rest, key.toList = first :: rest ∧ startsRequest first = true ∧
      ∀ c ∈ rest, continuesRequest c = true :=
  fits_iff.mp validKey

theorem continuesRequest_of_mem_key
    {key : String}
    (validKey : isRequestKey key = true)
    {c : Char}
    (member : c ∈ key.toList) :
    continuesRequest c = true := by
  obtain ⟨first, rest, name, starts, continues⟩ := exists_cons_of_isRequestKey validKey
  rw [name] at member
  rcases List.mem_cons.mp member with isFirst | inRest
  · rw [isFirst]
    exact continuesRequest_of_startsRequest starts
  · exact continues c inRest

/-- Every stored name may be asked for. -/
theorem isRequestKey_of_isStoredKey
    {key : String}
    (stored : isStoredKey key = true) :
    isRequestKey key = true := by
  obtain ⟨first, rest, name, starts, continues⟩ := fits_iff.mp stored
  apply fits_iff.mpr
  refine ⟨first, rest, name, ?_, ?_⟩
  · rw [startsStored_iff] at starts
    rw [startsRequest_iff]
    omega
  · intro c member
    have code := continues c member
    rw [continuesStored_iff] at code
    rw [continuesRequest_iff]
    omega

end SealedEnv
