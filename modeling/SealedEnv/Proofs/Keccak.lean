import SealedEnv.Keccak
import SealedEnv.Proofs.Digits

/-!
Contract: the hash functions on natural numbers, one for each lane.

Owns:
- `Numeric.permute`, the permutation with every lane written out, which a proof can evaluate;
- the digest of one block as the digits of the number that the lanes make up;
- the lengths of digests.

Does not own: which digests are drawn from.
-/

namespace SealedEnv.Keccak

/-! ## Single lanes -/

theorem lane_map_range (count : Nat) (f : Nat → UInt64) {i : Nat} (inside : i < count) :
    lane ((Array.range count).map f) i = f i := by
  simp [lane, inside]

def parity (lanes : Lanes) (x : Nat) : UInt64 :=
  lane lanes x ^^^ lane lanes (x + 5) ^^^ lane lanes (x + 10) ^^^ lane lanes (x + 15) ^^^
    lane lanes (x + 20)

theorem lane_mixParities (lanes : Lanes) {i : Nat} (inside : i < 25) :
    lane (mixParities lanes) i =
      lane lanes i ^^^ (parity lanes ((i % 5 + 4) % 5) ^^^
        rotate (parity lanes ((i % 5 + 1) % 5)) 1) := by
  have column : ∀ n, n % 5 < 5 := fun n => Nat.mod_lt n (by decide)
  unfold mixParities
  rw [lane_map_range 25 _ inside, lane_map_range 5 _ (column i), lane_map_range 5 _ (column _),
    lane_map_range 5 _ (column _)]
  rfl

theorem lane_move (lanes : Lanes) {i : Nat} (inside : i < moves.size) :
    lane (move lanes) i = rotate (lane lanes moves[i].1) moves[i].2 := by
  unfold move
  rw [lane, Array.getD_eq_getD_getElem?, Array.getElem?_map, Array.getElem?_eq_getElem inside]
  rfl

theorem lane_combineRows (lanes : Lanes) {i : Nat} (inside : i < 25) :
    lane (combineRows lanes) i =
      lane lanes i ^^^ (~~~lane lanes (i / 5 * 5 + (i + 1) % 5) &&&
        lane lanes (i / 5 * 5 + (i + 2) % 5)) := by
  unfold combineRows
  rw [lane_map_range 25 _ inside]

theorem lane_round (lanes : Lanes) (constant : UInt64) {i : Nat} (inside : i < 25) :
    lane (round lanes constant) i =
      if i = 0 then lane (combineRows (move (mixParities lanes))) 0 ^^^ constant
      else lane (combineRows (move (mixParities lanes))) i := by
  have size : (combineRows (move (mixParities lanes))).size = 25 := by simp [combineRows]
  unfold round lane
  rw [Array.getD_eq_getD_getElem?, Array.getElem?_modify]
  by_cases first : i = 0
  · subst first
    simp [size]
  · rw [if_neg (Ne.symm first), if_neg first, Array.getD_eq_getD_getElem?]

/-! ## The permutation on numbers -/

/-- The numbers of the lanes. -/
def numbers (lanes : Lanes) : List Nat := (List.range 25).map fun i => (lane lanes i).toNat

namespace Numeric

def rotate (word count : Nat) : Nat :=
  Nat.lor (Nat.mod (Nat.shiftLeft word count) (2 ^ 64)) (Nat.shiftRight word (Nat.sub 64 count))

/-- A number combined with the two after it. -/
def combine (a b c : Nat) : Nat := Nat.xor a (Nat.land (Nat.sub (2 ^ 64 - 1) b) c)

def parity (a b c d e : Nat) : Nat := Nat.xor (Nat.xor (Nat.xor (Nat.xor a b) c) d) e

def round : List Nat → Nat → List Nat
  | [a0, a1, a2, a3, a4, a5, a6, a7, a8, a9, a10, a11, a12, a13, a14, a15, a16, a17, a18, a19,
      a20, a21, a22, a23, a24], constant =>
    let p0 := parity a0 a5 a10 a15 a20
    let p1 := parity a1 a6 a11 a16 a21
    let p2 := parity a2 a7 a12 a17 a22
    let p3 := parity a3 a8 a13 a18 a23
    let p4 := parity a4 a9 a14 a19 a24
    let d0 := Nat.xor p4 (rotate p1 1)
    let d1 := Nat.xor p0 (rotate p2 1)
    let d2 := Nat.xor p1 (rotate p3 1)
    let d3 := Nat.xor p2 (rotate p4 1)
    let d4 := Nat.xor p3 (rotate p0 1)
    let b0 := Nat.xor a0 d0
    let b1 := rotate (Nat.xor a6 d1) 44
    let b2 := rotate (Nat.xor a12 d2) 43
    let b3 := rotate (Nat.xor a18 d3) 21
    let b4 := rotate (Nat.xor a24 d4) 14
    let b5 := rotate (Nat.xor a3 d3) 28
    let b6 := rotate (Nat.xor a9 d4) 20
    let b7 := rotate (Nat.xor a10 d0) 3
    let b8 := rotate (Nat.xor a16 d1) 45
    let b9 := rotate (Nat.xor a22 d2) 61
    let b10 := rotate (Nat.xor a1 d1) 1
    let b11 := rotate (Nat.xor a7 d2) 6
    let b12 := rotate (Nat.xor a13 d3) 25
    let b13 := rotate (Nat.xor a19 d4) 8
    let b14 := rotate (Nat.xor a20 d0) 18
    let b15 := rotate (Nat.xor a4 d4) 27
    let b16 := rotate (Nat.xor a5 d0) 36
    let b17 := rotate (Nat.xor a11 d1) 10
    let b18 := rotate (Nat.xor a17 d2) 15
    let b19 := rotate (Nat.xor a23 d3) 56
    let b20 := rotate (Nat.xor a2 d2) 62
    let b21 := rotate (Nat.xor a8 d3) 55
    let b22 := rotate (Nat.xor a14 d4) 39
    let b23 := rotate (Nat.xor a15 d0) 41
    let b24 := rotate (Nat.xor a21 d1) 2
    [Nat.xor (combine b0 b1 b2) constant, combine b1 b2 b3, combine b2 b3 b4, combine b3 b4 b0,
      combine b4 b0 b1, combine b5 b6 b7, combine b6 b7 b8, combine b7 b8 b9, combine b8 b9 b5,
      combine b9 b5 b6, combine b10 b11 b12, combine b11 b12 b13, combine b12 b13 b14,
      combine b13 b14 b10, combine b14 b10 b11, combine b15 b16 b17, combine b16 b17 b18,
      combine b17 b18 b19, combine b18 b19 b15, combine b19 b15 b16, combine b20 b21 b22,
      combine b21 b22 b23, combine b22 b23 b24, combine b23 b24 b20, combine b24 b20 b21]
  | numbers, _ => numbers

def permute (numbers : List Nat) : List Nat :=
  (roundConstants.map UInt64.toNat).foldl round numbers

end Numeric

theorem toNat_xor (a b : UInt64) : (a ^^^ b).toNat = Nat.xor a.toNat b.toNat := UInt64.toNat_xor a b

theorem toNat_rotate (word : UInt64) {count : Nat} (positive : 0 < count) (small : count < 64) :
    (rotate word count).toNat = Numeric.rotate word.toNat count := by
  have left : count % 2 ^ 64 % 64 = count := by omega
  have right : (64 - count) % 2 ^ 64 % 64 = 64 - count := by omega
  unfold rotate
  rw [if_neg (Nat.ne_of_gt positive), UInt64.toNat_or, UInt64.toNat_shiftLeft,
    UInt64.toNat_shiftRight, UInt64.toNat_ofNat', UInt64.toNat_ofNat', left, right]
  rfl

theorem toNat_combine (a b c : UInt64) :
    (a ^^^ (~~~b &&& c)).toNat = Numeric.combine a.toNat b.toNat c.toNat := by
  rw [UInt64.toNat_xor, UInt64.toNat_and, UInt64.toNat_not]
  rfl

theorem toNat_parity (lanes : Lanes) (x : Nat) :
    (parity lanes x).toNat =
      Numeric.parity (lane lanes x).toNat (lane lanes (x + 5)).toNat (lane lanes (x + 10)).toNat
        (lane lanes (x + 15)).toNat (lane lanes (x + 20)).toNat := by
  simp only [parity, toNat_xor, Numeric.parity]

theorem numbers_round (lanes : Lanes) (constant : UInt64) :
    numbers (round lanes constant) = Numeric.round (numbers lanes) constant.toNat := by
  have fixed : ∀ word, rotate word 0 = word := fun _ => rfl
  have combined : ∀ i, i < 25 → ((lane (combineRows (move (mixParities lanes))) i).toNat =
      Numeric.combine (lane (move (mixParities lanes)) i).toNat
        (lane (move (mixParities lanes)) (i / 5 * 5 + (i + 1) % 5)).toNat
        (lane (move (mixParities lanes)) (i / 5 * 5 + (i + 2) % 5)).toNat) := by
    intro i inside
    rw [lane_combineRows _ inside, toNat_combine]
  have each : ∀ state, numbers state = (List.range' 0 25).map fun i => (lane state i).toNat := by
    intro state
    rw [numbers, List.range_eq_range']
  rw [each, each]
  simp (disch := decide) only [List.range'_succ, List.range'_zero, List.map_cons, List.map_nil,
    lane_round, combined, lane_move, lane_mixParities, moves, fixed, toNat_xor, toNat_rotate,
    toNat_parity, Nat.reduceMod, Nat.reduceDiv, Nat.reduceAdd, Nat.reduceMul,
    List.getElem_toArray, List.getElem_cons_zero, List.getElem_cons_succ, Numeric.round, if_true,
    if_false, Nat.reduceEqDiff]

theorem numbers_permute (lanes : Lanes) :
    numbers (permute lanes) = Numeric.permute (numbers lanes) := by
  unfold permute Numeric.permute
  induction roundConstants generalizing lanes with
  | nil => rfl
  | cons constant rest inductionHypothesis =>
      rw [List.foldl_cons, List.map_cons, List.foldl_cons, inductionHypothesis, numbers_round]

/-! ## The sponge on numbers -/

namespace Numeric

/-- Numbers with the numbers of successive eights of bytes added. -/
def addBlock : List Nat → Bytes → List Nat
  | [], _ => []
  | word :: rest, block =>
    Nat.xor word (byteNumber (block.take 8)) :: addBlock rest (block.drop 8)

/-- The numbers after the blocks of a message; `count` bounds their number. -/
def absorbAll (rate : Nat) : Nat → List Nat → Bytes → List Nat
  | 0, numbers, _ => numbers
  | count + 1, numbers, message =>
    if message.isEmpty then numbers
    else absorbAll rate count (permute (addBlock numbers (message.take rate))) (message.drop rate)

/-- The numbers after a whole message. -/
def absorbed (rate : Nat) (marks : UInt8) (message : Bytes) : List Nat :=
  absorbAll rate (message.length / rate + 1) (List.replicate 25 0) (padded rate marks message)

end Numeric

/-- Eight bytes are the digits of the number of their lane. -/
theorem toNat_bytesLane {bytes : Bytes} (few : bytes.length ≤ 8) :
    (bytesLane bytes).toNat = byteNumber bytes := by
  induction bytes with
  | nil => rfl
  | cons byte rest inductionHypothesis =>
      have fewRest : rest.length ≤ 7 := Nat.le_of_succ_le_succ few
      have known := inductionHypothesis (Nat.le_succ_of_le fewRest)
      have small : byteNumber rest < 256 ^ 7 :=
        Nat.lt_of_lt_of_le (byteNumber_lt rest) (Nat.pow_le_pow_right (by decide) fewRest)
      have shifted : (byteNumber rest <<< 8) % 2 ^ 64 = byteNumber rest <<< 8 := by
        apply Nat.mod_eq_of_lt
        rw [Nat.shiftLeft_eq]
        omega
      have split : bytesLane (byte :: rest) = (bytesLane rest <<< 8) ||| byte.toUInt64 := rfl
      rw [split, UInt64.toNat_or, UInt64.toNat_shiftLeft, known, UInt8.toNat_toUInt64]
      change (byteNumber rest <<< 8) % 2 ^ 64 ||| byte.toNat = byte.toNat + 256 * byteNumber rest
      rw [shifted, ← Nat.shiftLeft_add_eq_or_of_lt byte.toNat_lt, Nat.shiftLeft_eq]
      omega

theorem addBlock_map_range (f : Nat → Nat) (first count : Nat) (block : Bytes) :
    Numeric.addBlock ((List.range' first count).map f) (block.drop (8 * first)) =
      (List.range' first count).map fun i =>
        Nat.xor (f i) (byteNumber ((block.drop (8 * i)).take 8)) := by
  induction count generalizing first with
  | zero => rfl
  | succ count inductionHypothesis =>
      rw [List.range'_succ, List.map_cons, List.map_cons, Numeric.addBlock, List.drop_drop,
        ← Nat.mul_succ, inductionHypothesis]

theorem numbers_absorb (lanes : Lanes) (block : Bytes) :
    numbers (absorb lanes block) = Numeric.permute (Numeric.addBlock (numbers lanes) block) := by
  have added := addBlock_map_range (fun i => (lane lanes i).toNat) 0 25 block
  rw [Nat.mul_zero, List.drop_zero, ← List.range_eq_range'] at added
  unfold absorb
  rw [numbers_permute, numbers, numbers, added]
  congr 1
  apply List.map_congr_left
  intro i member
  have few : ((block.drop (8 * i)).take 8).length ≤ 8 := List.length_take_le 8 _
  rw [lane_map_range 25 _ (List.mem_range.mp member), toNat_xor, toNat_bytesLane few]

theorem numbers_absorbAll (rate count : Nat) (lanes : Lanes) (message : Bytes) :
    numbers (absorbAll rate count lanes message) =
      Numeric.absorbAll rate count (numbers lanes) message := by
  induction count generalizing lanes message with
  | zero => rfl
  | succ count inductionHypothesis =>
      unfold absorbAll Numeric.absorbAll
      split
      · rfl
      · rw [inductionHypothesis, numbers_absorb]

theorem numbers_absorbed (rate : Nat) (marks : UInt8) (message : Bytes) :
    numbers (absorbed rate marks message) = Numeric.absorbed rate marks message :=
  numbers_absorbAll rate _ (Array.replicate 25 0) _

/-! ## Sizes -/

theorem size_round (lanes : Lanes) (constant : UInt64) : (round lanes constant).size = 25 := by
  simp [round, combineRows]

theorem size_permute (lanes : Lanes) : (permute lanes).size = 25 :=
  size_round _ _

theorem size_absorbAll (rate count : Nat) {lanes : Lanes} (size : lanes.size = 25)
    (message : Bytes) :
    (absorbAll rate count lanes message).size = 25 := by
  induction count generalizing lanes message with
  | zero => exact size
  | succ count inductionHypothesis =>
      unfold absorbAll
      split
      · exact size
      · exact inductionHypothesis (size_permute _) _

theorem size_absorbed (rate : Nat) (marks : UInt8) (message : Bytes) :
    (absorbed rate marks message).size = 25 :=
  size_absorbAll rate _ (by simp) _

/-! ## Output -/

theorem laneBytes_eq_digits (word : UInt64) :
    laneBytes word = (digits 256 8 word.toNat).map UInt8.ofNat := by
  rw [laneBytes, digits_eq_map, List.map_map]
  apply List.map_congr_left
  intro i member
  have inside : i < 8 := List.mem_range.mp member
  have count : 8 * i % 2 ^ 64 % 64 = 8 * i := by omega
  apply UInt8.toNat_inj.mp
  rw [UInt64.toNat_toUInt8, UInt64.toNat_shiftRight, UInt64.toNat_ofNat', count,
    Nat.shiftRight_eq_div_pow, Nat.pow_mul, Function.comp_apply, UInt8.toNat_ofNat',
    Nat.mod_mod]

theorem byteNumber_flatMap_laneBytes (words : List UInt64) :
    byteNumber (words.flatMap laneBytes) = number (2 ^ 64) (words.map UInt64.toNat) := by
  induction words with
  | nil => rfl
  | cons word rest inductionHypothesis =>
      have small : word.toNat < 256 ^ 8 := word.toNat_lt
      have first : byteNumber (laneBytes word) = word.toNat := by
        rw [laneBytes_eq_digits, byteNumber_digits, Nat.mod_eq_of_lt small]
      have size : (laneBytes word).length = 8 := by simp [laneBytes]
      have base : 256 ^ 8 = 2 ^ 64 := by decide
      rw [byteNumber] at first inductionHypothesis
      rw [byteNumber, List.flatMap_cons, List.map_append, number_append, first,
        inductionHypothesis, List.length_map, size, base, List.map_cons, number_cons]

theorem length_flatMap_laneBytes (words : List UInt64) :
    (words.flatMap laneBytes).length = 8 * words.length := by
  induction words with
  | nil => rfl
  | cons word rest inductionHypothesis =>
      have size : (laneBytes word).length = 8 := by simp [laneBytes]
      rw [List.flatMap_cons, List.length_append, size, inductionHypothesis, List.length_cons]
      omega

theorem toList_map_toNat {lanes : Lanes} (size : lanes.size = 25) :
    lanes.toList.map UInt64.toNat = numbers lanes := by
  apply List.ext_getElem
  · simp [numbers, size]
  · intro i inLanes _
    have inside : i < lanes.size := by simpa using inLanes
    simp [numbers, lane, inside]

/-- The output of a sponge is the lowest digits of the number that its lanes make up. -/
theorem output_eq_digits {rate : Nat} (within : rate ≤ 200) {lanes : Lanes}
    (size : lanes.size = 25) :
    output rate lanes =
      (digits 256 rate (number (2 ^ 64) (numbers lanes))).map UInt8.ofNat := by
  have whole := digits_byteNumber (lanes.toList.flatMap laneBytes)
  rw [length_flatMap_laneBytes, Array.length_toList, size, byteNumber_flatMap_laneBytes,
    toList_map_toNat size] at whole
  rw [output, ← whole, ← List.map_take, take_digits within]

/-- A digest that fits into one block is the lowest digits of the number that the lanes make up. -/
theorem sponge_eq_digits
    {rate length : Nat}
    (positive : 0 < length)
    (fits : length ≤ rate)
    (within : rate ≤ 200)
    (marks : UInt8)
    (message : Bytes) :
    sponge rate marks length message =
      (digits 256 length (number (2 ^ 64) (Numeric.absorbed rate marks message))).map
        UInt8.ofNat := by
  have oneBlock : (length + rate - 1) / rate = 1 := by
    rw [Nat.div_eq_iff (Nat.lt_of_lt_of_le positive fits)]
    omega
  rw [sponge, oneBlock, squeeze, squeeze, List.append_nil,
    output_eq_digits within (size_absorbed rate marks message), numbers_absorbed,
    ← List.map_take, take_digits fits]

end SealedEnv.Keccak
