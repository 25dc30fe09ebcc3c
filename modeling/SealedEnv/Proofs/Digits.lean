import Mathlib.Algebra.Group.Nat.Defs
import SealedEnv.Text.Utf8

/-!
Contract: numbers and their digits.

Owns:
- `number` and `digits`, for any base and any number of digits;
- `byteNumber`, the number of which bytes are the digits.

Does not own: what the digits stand for.
-/

namespace SealedEnv

/-- The number with the given digits, the least significant one first. -/
def number (base : Nat) (digits : List Nat) : Nat :=
  digits.foldr (fun digit n => digit + base * n) 0

/-- The `count` lowest digits of a number, the least significant one first. -/
def digits (base : Nat) : Nat → Nat → List Nat
  | 0, _ => []
  | count + 1, n => n % base :: digits base count (n / base)

@[simp]
theorem number_nil (base : Nat) : number base [] = 0 := rfl

@[simp]
theorem number_cons (base digit : Nat) (rest : List Nat) :
    number base (digit :: rest) = digit + base * number base rest := rfl

@[simp]
theorem length_digits (base count n : Nat) : (digits base count n).length = count := by
  induction count generalizing n with
  | zero => rfl
  | succ count inductionHypothesis => simp [digits, inductionHypothesis]

theorem lt_of_mem_digits
    {base count n digit : Nat}
    (positive : 0 < base)
    (member : digit ∈ digits base count n) :
    digit < base := by
  induction count generalizing n with
  | zero => cases member
  | succ count inductionHypothesis =>
      rcases List.mem_cons.mp member with rfl | later
      · exact Nat.mod_lt n positive
      · exact inductionHypothesis later

/-- The lowest digits of a number make up its remainder. -/
theorem number_digits (base count n : Nat) :
    number base (digits base count n) = n % base ^ count := by
  induction count generalizing n with
  | zero => simp [digits, Nat.mod_one]
  | succ count inductionHypothesis =>
      rw [digits, number_cons, inductionHypothesis, Nat.pow_succ', Nat.mod_mul]

theorem number_lt
    {base : Nat}
    {members : List Nat}
    (below : ∀ digit ∈ members, digit < base) :
    number base members < base ^ members.length := by
  induction members with
  | nil => simp
  | cons digit rest inductionHypothesis =>
      have isDigit := below digit List.mem_cons_self
      have restBelow := inductionHypothesis fun other member =>
        below other (List.mem_cons_of_mem digit member)
      calc number base (digit :: rest)
          = digit + base * number base rest := rfl
        _ < base + base * number base rest := Nat.add_lt_add_right isDigit _
        _ = base * (number base rest + 1) := by rw [Nat.mul_succ, Nat.add_comm]
        _ ≤ base * base ^ rest.length := Nat.mul_le_mul_left base restBelow
        _ = base ^ (digit :: rest).length := by rw [List.length_cons, Nat.pow_succ']

/-- A number has the digits that it was made of. -/
theorem digits_number
    {base : Nat}
    {members : List Nat}
    (below : ∀ digit ∈ members, digit < base) :
    digits base members.length (number base members) = members := by
  induction members with
  | nil => rfl
  | cons digit rest inductionHypothesis =>
      have isDigit := below digit List.mem_cons_self
      have positive : 0 < base := Nat.zero_lt_of_lt isDigit
      have others := inductionHypothesis fun other member =>
        below other (List.mem_cons_of_mem digit member)
      rw [List.length_cons, digits, number_cons, Nat.add_mul_mod_self_left,
        Nat.mod_eq_of_lt isDigit, Nat.add_mul_div_left _ _ positive,
        Nat.div_eq_of_lt isDigit, Nat.zero_add, others]

theorem number_append (base : Nat) (low high : List Nat) :
    number base (low ++ high) = number base low + base ^ low.length * number base high := by
  induction low with
  | nil => simp
  | cons digit rest inductionHypothesis =>
      rw [List.cons_append, number_cons, number_cons, inductionHypothesis, List.length_cons,
        Nat.pow_succ', Nat.mul_add, Nat.mul_assoc, Nat.add_assoc]

/-- Each digit is the remainder of a quotient. -/
theorem digits_eq_map (base count n : Nat) :
    digits base count n = (List.range count).map fun i => n / base ^ i % base := by
  induction count generalizing n with
  | zero => rfl
  | succ count inductionHypothesis =>
      rw [digits, inductionHypothesis, List.range_succ_eq_map, List.map_cons, List.map_map]
      congr 1
      · rw [Nat.pow_zero, Nat.div_one]
      · apply List.map_congr_left
        intro i _
        rw [Function.comp_apply, Nat.succ_eq_add_one, Nat.pow_succ', Nat.div_div_eq_div_mul]

theorem take_digits {base count enough : Nat} (within : count ≤ enough) (n : Nat) :
    (digits base enough n).take count = digits base count n := by
  induction count generalizing enough n with
  | zero => rfl
  | succ count inductionHypothesis =>
      cases enough with
      | zero => exact absurd within (Nat.not_succ_le_zero count)
      | succ enough =>
          rw [digits, digits, List.take_succ_cons,
            inductionHypothesis (Nat.le_of_succ_le_succ within)]

/-! ## Bytes -/

/-- The number of which bytes are the digits. -/
def byteNumber (bytes : Bytes) : Nat := number 256 (bytes.map UInt8.toNat)

theorem lt_of_mem_map_toNat {bytes : Bytes} {digit : Nat} (member : digit ∈ bytes.map UInt8.toNat) :
    digit < 256 := by
  obtain ⟨byte, _, rfl⟩ := List.mem_map.mp member
  exact byte.toNat_lt

theorem byteNumber_lt (bytes : Bytes) : byteNumber bytes < 256 ^ bytes.length := by
  have below := number_lt fun digit (member : digit ∈ bytes.map UInt8.toNat) =>
    lt_of_mem_map_toNat member
  rwa [List.length_map] at below

theorem map_toNat_digits (count n : Nat) :
    ((digits 256 count n).map UInt8.ofNat).map UInt8.toNat = digits 256 count n := by
  have isByte : ∀ digit ∈ digits 256 count n, (UInt8.toNat ∘ UInt8.ofNat) digit = digit := by
    intro digit member
    exact UInt8.toNat_ofNat_of_lt (lt_of_mem_digits (by decide) member)
  rw [List.map_map, List.map_congr_left isByte, List.map_id']

theorem byteNumber_digits (count n : Nat) :
    byteNumber ((digits 256 count n).map UInt8.ofNat) = n % 256 ^ count := by
  rw [byteNumber, map_toNat_digits, number_digits]

theorem digits_byteNumber (bytes : Bytes) :
    (digits 256 bytes.length (byteNumber bytes)).map UInt8.ofNat = bytes := by
  have whole := digits_number fun digit (member : digit ∈ bytes.map UInt8.toNat) =>
    lt_of_mem_map_toNat member
  rw [List.length_map] at whole
  rw [byteNumber, whole, List.map_map]
  simp [Function.comp_def]

end SealedEnv
