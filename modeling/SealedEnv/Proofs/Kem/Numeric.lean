import SealedEnv.Proofs.Kem.Keys

/-!
Contract: sampling and coding by arithmetic on whole numbers, which a proof can evaluate.

Owns:
- sampled polynomials as digits of the number that the lanes of a sponge make up;
- coded polynomials as a change of base;
- one concrete encapsulation that is opened.

Does not own: encapsulations that are not opened.
-/

namespace SealedEnv.Kem

open Keccak (numbers)

/-! ## Sampling -/

/-- The coefficient of a number that is one. -/
def coeff? (n : Nat) : Option Coeff := if small : n < modulus then some ⟨n, small⟩ else none

theorem candidates_output {lanes : Keccak.Lanes} (size : lanes.size = 25) :
    candidates (Keccak.output 168 lanes) =
      (digits 4096 112 (number (2 ^ 64) (numbers lanes) % 256 ^ 168)).filterMap coeff? := by
  have within : 168 ≤ 200 := by decide
  have output := Keccak.output_eq_digits within size
  unfold candidates
  rw [output, unpack_eq_digits, byteNumber_digits, List.length_map, length_digits]
  rfl

namespace Numeric

/-- Draws coefficients from the lanes of a sponge until there are enough. -/
def drawUniform : Nat → List Nat → List Coeff → Poly
  | 0, _, drawn => (drawn ++ zeroPoly).take degreeBound
  | count + 1, words, drawn =>
    if degreeBound ≤ drawn.length then drawn.take degreeBound
    else drawUniform count (Keccak.Numeric.permute words)
      (drawn ++ (digits 4096 112 (number (2 ^ 64) words % 256 ^ 168)).filterMap coeff?)

end Numeric

theorem drawUniform_eq (count : Nat) {lanes : Keccak.Lanes} (size : lanes.size = 25)
    (drawn : List Coeff) :
    drawUniform count lanes drawn = Numeric.drawUniform count (numbers lanes) drawn := by
  induction count generalizing lanes drawn with
  | zero => rfl
  | succ count inductionHypothesis =>
      unfold drawUniform Numeric.drawUniform
      rw [inductionHypothesis (Keccak.size_permute lanes), Keccak.numbers_permute,
        candidates_output size]

theorem uniform_eq (seed : Bytes) (column row : Nat) :
    uniform seed column row =
      Numeric.drawUniform 64
        (Keccak.Numeric.absorbed 168 0x1f (seed ++ [UInt8.ofNat column, UInt8.ofNat row])) [] := by
  unfold uniform Keccak.stream128
  rw [drawUniform_eq 64 (Keccak.size_absorbed _ _ _), Keccak.numbers_absorbed]

theorem bitsOf_ofBits (bits : List Bool) : bitsOf bits.length (ofBits bits) = bits := by
  induction bits with
  | nil => rfl
  | cons bit rest inductionHypothesis =>
      have isBit := bit.toNat_lt
      have low : (2 * ofBits rest + bit.toNat).testBit 0 = bit := by
        cases bit <;> simp [Nat.testBit_zero]
      have high : (2 * ofBits rest + bit.toNat) / 2 = ofBits rest := by omega
      rw [List.length_cons, bitsOf_succ, ofBits_cons, low, high, inductionHypothesis]

theorem firstStretches_eq_digits {width count : Nat} {bits : List Bool}
    (enough : width * count ≤ bits.length) :
    firstStretches width count bits =
      (digits (2 ^ width) count (ofBits bits)).map (bitsOf width) := by
  induction count generalizing bits with
  | zero => rfl
  | succ count inductionHypothesis =>
      rw [Nat.mul_succ] at enough
      have enoughRest : width * count ≤ (bits.drop width).length := by
        rw [List.length_drop]
        omega
      have size : (bits.take width).length = width :=
        List.length_take_of_le (by omega)
      have first := bitsOf_ofBits (bits.take width)
      rw [size, ofBits_take] at first
      rw [firstStretches, inductionHypothesis enoughRest, digits, List.map_cons, first, ofBits_drop]

/-- The small coefficients of the numbers of four bits. -/
def smallCoeffs : List Coeff := (List.range 16).map fun n => smallCoeff (bitsOf 4 n)

theorem small_eq (seed : Bytes) (position : Nat) :
    small seed position =
      (digits 16 256 (number (2 ^ 64)
        (Keccak.Numeric.absorbed 136 0x1f (seed ++ [UInt8.ofNat position])) % 256 ^ 128)).map
          fun n => smallCoeffs.getD n 0 := by
  have bytes : Keccak.stream256 128 (seed ++ [UInt8.ofNat position]) = _ :=
    Keccak.sponge_eq_digits (by decide) (by decide) (by decide) _ _
  have count : ((Keccak.stream256 128 (seed ++ [UInt8.ofNat position])).flatMap
      fun byte => bitsOf 8 byte.toNat).length = 1024 := by
    rw [length_flatMap_bytes, length_stream256 (by decide) (by decide)]
  unfold small stretches
  simp only []
  rw [count, firstStretches_eq_digits (Nat.le_of_eq count.symm), ofBits_flatMap_bytes, bytes,
    byteNumber_digits, List.map_map]
  apply List.map_congr_left
  intro n member
  have inside : n < 16 := lt_of_mem_digits (by decide) member
  simp [smallCoeffs, inside]

/-! ## Coding -/

theorem encodeCoeffs_eq (coeffs : List Coeff) :
    encodeCoeffs coeffs =
      (digits 256 (12 * coeffs.length / 8) (number (2 ^ 12) (coeffs.map Fin.val))).map
        UInt8.ofNat := by
  have below : ∀ n ∈ coeffs.map Fin.val, n < 2 ^ 12 := by
    intro n member
    obtain ⟨coeff, _, rfl⟩ := List.mem_map.mp member
    exact Nat.lt_trans coeff.isLt (by decide)
  rw [encodeCoeffs, pack_eq_digits below, List.length_map]

theorem encodeCompressed_eq (width : Nat) (poly : Poly) :
    encodeCompressed width poly =
      (digits 256 (width * poly.length / 8)
        (number (2 ^ width) (poly.map (compress width)))).map UInt8.ofNat := by
  have below : ∀ n ∈ poly.map (compress width), n < 2 ^ width := by
    intro n member
    obtain ⟨coeff, _, rfl⟩ := List.mem_map.mp member
    exact Nat.mod_lt _ (Nat.two_pow_pos width)
  rw [encodeCompressed, pack_eq_digits below, List.length_map]

theorem decodeCompressed_eq (width : Nat) (bytes : Bytes) :
    decodeCompressed width bytes =
      (digits (2 ^ width) (8 * bytes.length / width) (byteNumber bytes)).map
        (decompress width) := by
  rw [decodeCompressed, unpack_eq_digits]

/-! ## Digests -/

theorem digest256_eq (message : Bytes) :
    Keccak.digest256 message =
      (digits 256 32 (number (2 ^ 64) (Keccak.Numeric.absorbed 136 0x06 message))).map
        UInt8.ofNat :=
  Keccak.sponge_eq_digits (by decide) (by decide) (by decide) _ _

theorem digest512_eq (message : Bytes) :
    Keccak.digest512 message =
      (digits 256 64 (number (2 ^ 64) (Keccak.Numeric.absorbed 72 0x06 message))).map
        UInt8.ofNat :=
  Keccak.sponge_eq_digits (by decide) (by decide) (by decide) _ _

/-! ## One encapsulation -/

/-- The keys of the seed of zeros open what is encapsulated with zeros. -/
theorem opens_zeros
    {tape : Tape}
    (drawn : (tape.drawPadded 32).1 = List.replicate 32 0) :
    Opens (expandSeed (List.replicate 64 0)).encapsulator (expandSeed (List.replicate 64 0))
      tape := by
  have half : (List.replicate 64 (0 : UInt8)).take 32 = List.replicate 32 0 := rfl
  apply opens_of_decryptMessage
  -- On numbers the kernel evaluates the exchange in seconds, on lanes and bits it does not end.
  simp only [Encapsulator.encapsulate, drawn, Encapsulator.encapsulateWith, expandSeed, half,
    expandKey, smallRow, matrix, matrixColumns, decryptMessage, encryptMessage, messagePoly,
    PublicKey.toBytes, uniform_eq, small_eq, encodeCoeffs_eq, encodeCompressed_eq,
    decodeCompressed_eq, digest256_eq, digest512_eq]
  set_option maxRecDepth 100000 in
  decide +kernel

end SealedEnv.Kem
