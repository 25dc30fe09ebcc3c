import SealedEnv.Kem.Encryption
import SealedEnv.Proofs.Keccak
import SealedEnv.Proofs.Kem.Bits

/-!
Contract: every polynomial that a key or a ciphertext is made of has all its coefficients.

Owns:
- `Full`, kept by the ring operations, the transforms and the sampling;
- `PublicKey.Whole`, which the keys of all seeds satisfy, and the length of ciphertexts.

Does not own: the values of coefficients.
-/

namespace SealedEnv.Kem

/-- Holds of the polynomials that have all their coefficients. -/
def Full (poly : Poly) : Prop := poly.length = degreeBound

/-! ## Ring operations -/

theorem full_zeroPoly : Full zeroPoly := List.length_replicate

theorem Full.addPoly {left right : Poly} (first : Full left) (second : Full right) :
    Full (addPoly left right) := by
  unfold Full Kem.addPoly at *
  rw [List.length_zipWith, first, second, Nat.min_self]

theorem full_foldl_addPoly
    {polys : List Poly}
    (full : ∀ poly ∈ polys, Full poly)
    {start : Poly}
    (fullStart : Full start) :
    Full (polys.foldl addPoly start) := by
  induction polys generalizing start with
  | nil => exact fullStart
  | cons poly rest inductionHypothesis =>
      exact inductionHypothesis (fun other member => full other (List.mem_cons_of_mem poly member))
        (fullStart.addPoly (full poly List.mem_cons_self))

theorem length_multiplyPairs (pairs pair : Nat) {left right : Poly}
    (first : left.length = 2 * pairs) (second : right.length = 2 * pairs) :
    (multiplyPairs pair left right).length = 2 * pairs := by
  induction pairs generalizing pair left right with
  | zero =>
      rw [List.length_eq_zero_iff.mp first]
      rfl
  | succ pairs inductionHypothesis =>
      match left, right, first, second with
      | a :: b :: left, c :: d :: right, first, second =>
          rw [List.length_cons, List.length_cons] at first second
          have firstRest : left.length = 2 * pairs := by omega
          have secondRest : right.length = 2 * pairs := by omega
          have shorter := inductionHypothesis (pair + 1) firstRest secondRest
          rw [multiplyPairs, List.length_cons, List.length_cons, shorter]
          rfl

theorem Full.multiply {left right : Poly} (first : Full left) (second : Full right) :
    Full (multiply left right) :=
  length_multiplyPairs 128 0 first second

theorem forall_mem_zipWith
    {α β γ : Type}
    {combine : α → β → γ}
    {left : List α}
    {right : List β}
    {Holds : γ → Prop}
    (each : ∀ a ∈ left, ∀ b ∈ right, Holds (combine a b)) :
    ∀ c ∈ List.zipWith combine left right, Holds c := by
  intro c member
  rw [← List.map_uncurry_zip_eq_zipWith] at member
  obtain ⟨⟨a, b⟩, inZip, rfl⟩ := List.mem_map.mp member
  obtain ⟨inLeft, inRight⟩ := List.of_mem_zip inZip
  exact each a inLeft b inRight

theorem full_dot
    {left right : List Poly}
    (first : ∀ poly ∈ left, Full poly)
    (second : ∀ poly ∈ right, Full poly) :
    Full (dot left right) :=
  full_foldl_addPoly
    (forall_mem_zipWith fun a inLeft b inRight => (first a inLeft).multiply (second b inRight))
    full_zeroPoly

/-! ## Transforms -/

theorem length_halves
    {coeffs : List Coeff}
    {half : Nat}
    (whole : coeffs.length = 2 * half) :
    (coeffs.take (coeffs.length / 2)).length = half ∧
      (coeffs.drop (coeffs.length / 2)).length = half := by
  rw [List.length_take, List.length_drop]
  omega

theorem length_transformAt (level node : Nat) {rest : Nat} {coeffs : List Coeff}
    (whole : coeffs.length = 2 ^ level * rest) :
    (transformAt level node coeffs).length = 2 ^ level * rest := by
  induction level generalizing node coeffs with
  | zero => exact whole
  | succ level inductionHypothesis =>
      rw [Nat.pow_succ', Nat.mul_assoc] at whole ⊢
      obtain ⟨low, high⟩ := length_halves whole
      have combined : ∀ combine : Coeff → Coeff → Coeff, ∀ twist : Coeff → Coeff,
          (List.zipWith combine (coeffs.take (coeffs.length / 2))
            ((coeffs.drop (coeffs.length / 2)).map twist)).length = 2 ^ level * rest := by
        intro combine twist
        rw [List.length_zipWith, List.length_map, low, high, Nat.min_self]
      unfold transformAt
      simp only []
      rw [List.length_append, inductionHypothesis _ (combined _ _),
        inductionHypothesis _ (combined _ _), Nat.two_mul]

theorem Full.transform {poly : Poly} (full : Full poly) : Full (transform poly) := by
  have whole : poly.length = 2 ^ 7 * 2 := full
  exact length_transformAt 7 1 whole

theorem length_restoreAt (level node : Nat) {rest : Nat} {coeffs : List Coeff}
    (whole : coeffs.length = 2 ^ level * rest) :
    (restoreAt level node coeffs).length = 2 ^ level * rest := by
  induction level generalizing node coeffs with
  | zero => exact whole
  | succ level inductionHypothesis =>
      rw [Nat.pow_succ', Nat.mul_assoc] at whole ⊢
      obtain ⟨low, high⟩ := length_halves whole
      unfold restoreAt
      simp only []
      rw [List.length_append, List.length_map, List.length_zipWith, List.length_zipWith,
        inductionHypothesis _ low, inductionHypothesis _ high, Nat.min_self, Nat.two_mul]

theorem Full.restore {poly : Poly} (full : Full poly) : Full (restore poly) := by
  have whole : poly.length = 2 ^ 7 * 2 := full
  unfold Full Kem.restore
  rw [List.length_map]
  exact length_restoreAt 7 1 whole

/-! ## Sampling -/

theorem full_drawUniform (count : Nat) (lanes : Keccak.Lanes) (drawn : List Coeff) :
    Full (drawUniform count lanes drawn) := by
  induction count generalizing lanes drawn with
  | zero =>
      unfold Full drawUniform
      rw [List.length_take, List.length_append, full_zeroPoly]
      exact Nat.min_eq_left (Nat.le_add_left _ _)
  | succ count inductionHypothesis =>
      unfold drawUniform
      split
      · rename_i enough
        exact List.length_take_of_le enough
      · exact inductionHypothesis _ _

theorem full_uniform (seed : Bytes) (column row : Nat) : Full (uniform seed column row) :=
  full_drawUniform 64 _ []

/-- A stream that one block holds is as long as it was asked for. -/
theorem length_stream256
    {length : Nat}
    (positive : 0 < length)
    (fits : length ≤ 136)
    (message : Bytes) :
    (Keccak.stream256 length message).length = length := by
  rw [Keccak.stream256, Keccak.sponge_eq_digits positive fits (by decide), List.length_map,
    length_digits]

theorem full_small (seed : Bytes) (number : Nat) : Full (small seed number) := by
  unfold Full small
  simp only []
  rw [List.length_map, stretches, length_firstStretches, length_flatMap_bytes,
    length_stream256 (by decide) (by decide)]
  rfl

theorem full_of_mem_smallRow
    {seed : Bytes}
    {first : Nat}
    {poly : Poly}
    (member : poly ∈ smallRow seed first) :
    Full poly := by
  obtain ⟨i, _, rfl⟩ := List.mem_map.mp member
  exact full_small seed (first + i)

/-! ## Keys -/

/-- Holds of the public keys that are written with the bytes of a public key. -/
structure PublicKey.Whole (key : PublicKey) : Prop where
  rank : key.row.length = Kem.rank
  full : ∀ poly ∈ key.row, Full poly
  seed : key.seed.length = 32

theorem length_digest512 (message : Bytes) : (Keccak.digest512 message).length = 64 := by
  rw [Keccak.digest512, Keccak.sponge_eq_digits (by decide) (by decide) (by decide),
    List.length_map, length_digits]

theorem full_of_mem_transforms
    {polys : List Poly}
    (full : ∀ poly ∈ polys, Full poly) :
    ∀ poly ∈ polys.map transform, Full poly := by
  intro poly member
  obtain ⟨before, inPolys, rfl⟩ := List.mem_map.mp member
  exact (full before inPolys).transform

theorem full_of_mem_secret (seed : Bytes) : ∀ poly ∈ (expandKey seed).2, Full poly :=
  full_of_mem_transforms fun _ => full_of_mem_smallRow

theorem whole_expandKey (seed : Bytes) : (expandKey seed).1.Whole where
  rank := by simp [expandKey, matrix, smallRow, Kem.rank]
  full := by
    apply forall_mem_zipWith
    intro product inProducts noise inNoise
    obtain ⟨row, inMatrix, rfl⟩ := List.mem_map.mp inProducts
    obtain ⟨i, _, rfl⟩ := List.mem_map.mp inMatrix
    have fullRow : ∀ poly ∈ (List.range Kem.rank).map fun column =>
        uniform ((Keccak.digest512 (seed ++ [UInt8.ofNat Kem.rank])).take 32) column i,
        Full poly := by
      intro poly inRow
      obtain ⟨column, _, rfl⟩ := List.mem_map.mp inRow
      exact full_uniform _ _ _
    exact (full_dot fullRow (full_of_mem_secret seed)).addPoly
      (full_of_mem_transforms (fun _ => full_of_mem_smallRow) noise inNoise)
  seed := by simp [expandKey, length_digest512]

/-! ## Ciphertexts -/

theorem length_encodeCompressed (width : Nat) {poly : Poly} (full : Full poly) :
    (encodeCompressed width poly).length = 32 * width := by
  rw [encodeCompressed, length_pack, List.length_map, full]
  simp only [degreeBound]
  omega

theorem full_messagePoly {message : Bytes} (size : message.length = 32) :
    Full (messagePoly message) := by
  rw [Full, messagePoly, decodeCompressed, List.length_map, length_unpack, size]
  rfl

theorem length_flatten_of_equal
    {α : Type}
    {width : Nat}
    {rows : List (List α)}
    (equal : ∀ row ∈ rows, row.length = width) :
    rows.flatten.length = width * rows.length := by
  induction rows with
  | nil => rfl
  | cons row rest inductionHypothesis =>
      rw [List.flatten_cons, List.length_append, equal row List.mem_cons_self,
        inductionHypothesis fun other member => equal other (List.mem_cons_of_mem row member),
        List.length_cons, Nat.mul_succ, Nat.add_comm]

theorem length_flatMap_encodeCompressed
    (width : Nat)
    {polys : List Poly}
    (full : ∀ poly ∈ polys, Full poly) :
    (polys.flatMap (encodeCompressed width)).length = 32 * width * polys.length := by
  have equal : ∀ bytes ∈ polys.map (encodeCompressed width), bytes.length = 32 * width := by
    intro bytes member
    obtain ⟨poly, inPolys, rfl⟩ := List.mem_map.mp member
    exact length_encodeCompressed width (full poly inPolys)
  rw [List.flatMap_def, length_flatten_of_equal equal, List.length_map]

theorem full_of_mem_maskedRow
    {blind : List Poly}
    (fullBlind : ∀ poly ∈ blind, Full poly)
    (keySeed seed : Bytes) :
    ∀ poly ∈ List.zipWith addPoly
      ((matrixColumns keySeed).map fun column => restore (dot column blind))
      (smallRow seed rank), Full poly := by
  apply forall_mem_zipWith
  intro product inProducts noise inNoise
  obtain ⟨column, inMatrix, rfl⟩ := List.mem_map.mp inProducts
  obtain ⟨i, _, rfl⟩ := List.mem_map.mp inMatrix
  have fullColumn : ∀ poly ∈ (List.range rank).map fun row => uniform keySeed i row,
      Full poly := by
    intro poly inColumn
    obtain ⟨row, _, rfl⟩ := List.mem_map.mp inColumn
    exact full_uniform _ _ _
  exact (full_dot fullColumn fullBlind).restore.addPoly (full_of_mem_smallRow inNoise)

/-- The encryptions of messages under whole keys have one length. -/
theorem length_encryptMessage
    {key : PublicKey}
    (whole : key.Whole)
    {message : Bytes}
    (size : message.length = 32)
    (seed : Bytes) :
    (encryptMessage key message seed).length = 1088 := by
  have fullBlind : ∀ poly ∈ (smallRow seed 0).map transform, Full poly :=
    full_of_mem_transforms fun _ => full_of_mem_smallRow
  have fullRow := full_of_mem_maskedRow fullBlind key.seed seed
  have fullProduct := (full_dot whole.full fullBlind).restore.addPoly (full_small seed (2 * rank))
  have fullValue := fullProduct.addPoly (full_messagePoly size)
  unfold encryptMessage
  simp only []
  rw [List.length_append, length_flatMap_encodeCompressed rowWidth fullRow,
    length_encodeCompressed valueWidth fullValue]
  simp [matrixColumns, smallRow, rank, rowWidth, valueWidth]

end SealedEnv.Kem
