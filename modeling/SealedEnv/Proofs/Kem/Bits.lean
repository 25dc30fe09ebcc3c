import SealedEnv.Kem.Bits
import SealedEnv.Proofs.Digits

/-!
Contract: packing numbers into bytes is a change of base.

Owns:
- `pack` and `unpack` as a change between the bases 256 and `2 ^ width`;
- that whole packings are unpacked to the numbers they were made of.

Does not own: what the numbers stand for.
-/

namespace SealedEnv.Kem

/-! ## Bits -/

theorem ofBits_cons (bit : Bool) (bits : List Bool) :
    ofBits (bit :: bits) = 2 * ofBits bits + bit.toNat := rfl

@[simp]
theorem length_bitsOf (width n : Nat) : (bitsOf width n).length = width := by
  simp [bitsOf]

theorem bitsOf_succ (width n : Nat) :
    bitsOf (width + 1) n = n.testBit 0 :: bitsOf width (n / 2) := by
  simp [bitsOf, List.range_succ_eq_map, Nat.testBit_succ, Function.comp_def]

theorem ofBits_bitsOf (width n : Nat) : ofBits (bitsOf width n) = n % 2 ^ width := by
  induction width generalizing n with
  | zero => simp [bitsOf, ofBits, Nat.mod_one]
  | succ width inductionHypothesis =>
      rw [bitsOf_succ, ofBits_cons, inductionHypothesis, Nat.pow_succ', Nat.mod_mul,
        Nat.testBit_zero, Nat.add_comm]
      congr 1
      rcases Nat.mod_two_eq_zero_or_one n with even | odd
      · simp [even]
      · simp [odd]

theorem ofBits_append (low high : List Bool) :
    ofBits (low ++ high) = ofBits low + 2 ^ low.length * ofBits high := by
  induction low with
  | nil => simp [ofBits]
  | cons bit rest inductionHypothesis =>
      rw [List.cons_append, ofBits_cons, ofBits_cons, inductionHypothesis, List.length_cons,
        Nat.pow_succ', Nat.mul_add, Nat.mul_assoc]
      omega

/-- The bits of successive numbers make up the number of which these are the digits. -/
theorem ofBits_flatMap_bitsOf
    {width : Nat}
    {numbers : List Nat}
    (below : ∀ n ∈ numbers, n < 2 ^ width) :
    ofBits (numbers.flatMap (bitsOf width)) = number (2 ^ width) numbers := by
  induction numbers with
  | nil => rfl
  | cons n rest inductionHypothesis =>
      rw [List.flatMap_cons, ofBits_append, ofBits_bitsOf, length_bitsOf,
        Nat.mod_eq_of_lt (below n List.mem_cons_self),
        inductionHypothesis fun other member => below other (List.mem_cons_of_mem n member),
        number_cons]

theorem ofBits_take (count : Nat) (bits : List Bool) :
    ofBits (bits.take count) = ofBits bits % 2 ^ count := by
  induction count generalizing bits with
  | zero => simp [ofBits, Nat.mod_one]
  | succ count inductionHypothesis =>
      cases bits with
      | nil => simp [ofBits]
      | cons bit rest =>
          have isBit := bit.toNat_lt
          rw [List.take_succ_cons, ofBits_cons, ofBits_cons, inductionHypothesis, Nat.pow_succ',
            Nat.mod_mul, Nat.mul_add_mod, Nat.mul_add_div (by decide), Nat.mod_eq_of_lt isBit,
            Nat.div_eq_of_lt isBit, Nat.add_zero, Nat.add_comm]

theorem ofBits_drop (count : Nat) (bits : List Bool) :
    ofBits (bits.drop count) = ofBits bits / 2 ^ count := by
  induction count generalizing bits with
  | zero => simp
  | succ count inductionHypothesis =>
      cases bits with
      | nil => simp [ofBits]
      | cons bit rest =>
          rw [List.drop_succ_cons, ofBits_cons, inductionHypothesis, Nat.pow_succ',
            ← Nat.div_div_eq_div_mul, Nat.mul_add_div (by decide),
            Nat.div_eq_of_lt bit.toNat_lt, Nat.add_zero]

/-- Stretches of bits are the digits of their number. -/
theorem firstStretches_map_ofBits (width count : Nat) (bits : List Bool) :
    (firstStretches width count bits).map ofBits = digits (2 ^ width) count (ofBits bits) := by
  induction count generalizing bits with
  | zero => rfl
  | succ count inductionHypothesis =>
      rw [firstStretches, List.map_cons, inductionHypothesis, ofBits_take, ofBits_drop, digits]

theorem length_flatMap_bitsOf (width : Nat) (numbers : List Nat) :
    (numbers.flatMap (bitsOf width)).length = width * numbers.length := by
  induction numbers with
  | nil => rfl
  | cons n rest inductionHypothesis =>
      rw [List.flatMap_cons, List.length_append, length_bitsOf, inductionHypothesis,
        List.length_cons, Nat.mul_succ, Nat.add_comm]

/-! ## Packing -/

/-- The bits of bytes make up the number of which the bytes are the digits. -/
theorem ofBits_flatMap_bytes (bytes : Bytes) :
    ofBits (bytes.flatMap fun byte => bitsOf 8 byte.toNat) = byteNumber bytes := by
  have below : ∀ n ∈ bytes.map UInt8.toNat, n < 2 ^ 8 := fun _ => lt_of_mem_map_toNat
  rw [← List.flatMap_map, ofBits_flatMap_bitsOf below]
  rfl

theorem length_flatMap_bytes (bytes : Bytes) :
    (bytes.flatMap fun byte => bitsOf 8 byte.toNat).length = 8 * bytes.length := by
  rw [← List.flatMap_map, length_flatMap_bitsOf, List.length_map]

/-- Numbers that were unpacked are the digits of the number of which the bytes are. -/
theorem unpack_eq_digits (width : Nat) (bytes : Bytes) :
    unpack width bytes = digits (2 ^ width) (8 * bytes.length / width) (byteNumber bytes) := by
  rw [unpack, stretches, firstStretches_map_ofBits, ofBits_flatMap_bytes, length_flatMap_bytes]

/-- Packed bytes are the digits of the number of which what was packed are. -/
theorem pack_eq_digits
    {width : Nat}
    {numbers : List Nat}
    (below : ∀ n ∈ numbers, n < 2 ^ width) :
    pack width numbers =
      (digits 256 (width * numbers.length / 8) (number (2 ^ width) numbers)).map UInt8.ofNat := by
  have halves : (fun bits => UInt8.ofNat (ofBits bits)) = UInt8.ofNat ∘ ofBits := rfl
  have bytes := firstStretches_map_ofBits 8 (width * numbers.length / 8)
    (numbers.flatMap (bitsOf width))
  rw [show 2 ^ 8 = 256 from rfl] at bytes
  unfold pack stretches
  rw [halves, ← List.map_map, length_flatMap_bitsOf, bytes, ofBits_flatMap_bitsOf below]

@[simp]
theorem length_firstStretches {α : Type} (width count : Nat) (members : List α) :
    (firstStretches width count members).length = count := by
  induction count generalizing members with
  | zero => rfl
  | succ count inductionHypothesis => simp [firstStretches, inductionHypothesis]

theorem length_pack (width : Nat) (numbers : List Nat) :
    (pack width numbers).length = width * numbers.length / 8 := by
  simp only [pack, stretches, List.length_map, length_firstStretches, length_flatMap_bitsOf]

theorem length_unpack (width : Nat) (bytes : Bytes) :
    (unpack width bytes).length = 8 * bytes.length / width := by
  rw [unpack_eq_digits, length_digits]

/-- Numbers that fill whole bytes are unpacked as they were packed. -/
theorem unpack_pack
    {width : Nat}
    {numbers : List Nat}
    (positive : 0 < width)
    (below : ∀ n ∈ numbers, n < 2 ^ width)
    (whole : 8 ∣ width * numbers.length) :
    unpack width (pack width numbers) = numbers := by
  obtain ⟨count, filled⟩ := whole
  have bytes : byteNumber (pack width numbers) = number (2 ^ width) numbers := by
    have small : number (2 ^ width) numbers < 256 ^ count := by
      calc number (2 ^ width) numbers < (2 ^ width) ^ numbers.length := number_lt below
        _ = (2 ^ 8) ^ count := by rw [← Nat.pow_mul, filled, Nat.pow_mul]
    rw [pack_eq_digits below, filled, Nat.mul_div_cancel_left count (by decide),
      byteNumber_digits, Nat.mod_eq_of_lt small]
  rw [unpack_eq_digits, bytes, length_pack, filled, Nat.mul_div_cancel_left count (by decide),
    ← filled, Nat.mul_div_cancel_left _ positive, digits_number below]

end SealedEnv.Kem
