import SealedEnv.Proofs.Kem.Keys

/-!
Contract: the public keys that are accepted are those whose coefficients are all reduced.

Owns:
- the numbers of twelve bits in bytes, two from each three bytes, and that unpacking gives them;
- that bytes are packed again as they were, and coefficients written again as they were read
  exactly if none of them was reduced;
- what `Encapsulator.ofBytes` accepts, and that fresh public keys are among it.

Does not own: the seed at the end of a public key, of which nothing is asked.
-/

namespace SealedEnv.Kem

/-! ## Numbers of twelve bits -/

/-- The numbers of twelve bits in bytes: the middle one of three bytes gives its low half to the
first number and its high half to the second. -/
def tripleNumbers : Bytes → List Nat
  | low :: middle :: high :: rest =>
    (low.toNat + 256 * (middle.toNat % 16)) :: (middle.toNat / 16 + 16 * high.toNat) ::
      tripleNumbers rest
  | _ => []

theorem byteNumber_cons (byte : UInt8) (rest : Bytes) :
    byteNumber (byte :: rest) = byte.toNat + 256 * byteNumber rest := rfl

/-- The digits of three bytes in the base 4096 are their two numbers. -/
theorem digits_tripleNumbers {count : Nat} {bytes : Bytes} (whole : bytes.length = 3 * count) :
    digits 4096 (2 * count) (byteNumber bytes) = tripleNumbers bytes := by
  induction count generalizing bytes with
  | zero =>
      rw [List.eq_nil_of_length_eq_zero whole]
      rfl
  | succ count inductionHypothesis =>
      match bytes, whole with
      | low :: middle :: high :: rest, whole =>
          have others : rest.length = 3 * count := by
            simp only [List.length_cons] at whole
            omega
          have lowByte := low.toNat_lt
          have middleByte := middle.toNat_lt
          have highByte := high.toNat_lt
          have first : byteNumber (low :: middle :: high :: rest) % 4096 =
              low.toNat + 256 * (middle.toNat % 16) := by
            simp only [byteNumber_cons]
            omega
          have second : byteNumber (low :: middle :: high :: rest) / 4096 % 4096 =
              middle.toNat / 16 + 16 * high.toNat := by
            simp only [byteNumber_cons]
            omega
          have left : byteNumber (low :: middle :: high :: rest) / 4096 / 4096 =
              byteNumber rest := by
            simp only [byteNumber_cons]
            omega
          rw [Nat.mul_succ, digits, digits, first, second, left, inductionHypothesis others,
            tripleNumbers]

theorem unpack_eq_tripleNumbers {bytes : Bytes} (whole : 3 ∣ bytes.length) :
    unpack 12 bytes = tripleNumbers bytes := by
  obtain ⟨count, size⟩ := whole
  have pairs : 8 * bytes.length / 12 = 2 * count := by omega
  rw [unpack_eq_digits, pairs]
  exact digits_tripleNumbers size

/-! ## Coefficients -/

theorem lt_of_mem_unpack {width n : Nat} {bytes : Bytes} (member : n ∈ unpack width bytes) :
    n < 2 ^ width := by
  rw [unpack_eq_digits] at member
  exact lt_of_mem_digits (Nat.two_pow_pos width) member

/-- Bytes that whole numbers fill are packed as they were unpacked. -/
theorem pack_unpack {width : Nat} {bytes : Bytes} (whole : width ∣ 8 * bytes.length) :
    pack width (unpack width bytes) = bytes := by
  have filled : width * (8 * bytes.length / width) = 8 * bytes.length := Nat.mul_div_cancel' whole
  have room : (2 ^ width) ^ (8 * bytes.length / width) = 256 ^ bytes.length := by
    rw [← Nat.pow_mul, filled, Nat.pow_mul]
  rw [pack_eq_digits fun _ => lt_of_mem_unpack, length_unpack, filled,
    Nat.mul_div_cancel_left _ (by decide), unpack_eq_digits, number_digits, room,
    Nat.mod_eq_of_lt (byteNumber_lt bytes), digits_byteNumber]

theorem map_val_decodeCoeffs (bytes : Bytes) :
    (decodeCoeffs bytes).map Fin.val = (unpack 12 bytes).map (· % modulus) := by
  rw [decodeCoeffs, List.map_map]
  rfl

/-- Coefficients that are all reduced are kept by reading them. -/
theorem map_val_decodeCoeffs_of_lt
    {bytes : Bytes}
    (reduced : ∀ n ∈ unpack 12 bytes, n < modulus) :
    (decodeCoeffs bytes).map Fin.val = unpack 12 bytes := by
  rw [map_val_decodeCoeffs]
  exact (List.map_congr_left fun n member => Nat.mod_eq_of_lt (reduced n member)).trans
    (List.map_id' _)

/-- Coefficients are written as they were read exactly if all of them were reduced. -/
theorem encodeCoeffs_decodeCoeffs_iff {bytes : Bytes} (whole : 3 ∣ bytes.length) :
    encodeCoeffs (decodeCoeffs bytes) = bytes ↔ ∀ n ∈ unpack 12 bytes, n < modulus := by
  constructor
  · intro kept n member
    -- Unpacking once more gives the remainders, which are the numbers then.
    have even : 2 ∣ (decodeCoeffs bytes).length := by
      rw [decodeCoeffs, List.length_map, length_unpack]
      omega
    have again := decodeCoeffs_encodeCoeffs even
    have numbers : unpack 12 bytes = (decodeCoeffs bytes).map Fin.val := by
      have below : ∀ n ∈ (decodeCoeffs bytes).map Fin.val, n < 2 ^ 12 := by
        intro n member
        obtain ⟨coeff, _, rfl⟩ := List.mem_map.mp member
        exact Nat.lt_trans coeff.isLt (by decide)
      have full : 8 ∣ 12 * ((decodeCoeffs bytes).map Fin.val).length := by
        rw [List.length_map]
        omega
      have unpacked := unpack_pack (by decide) below full
      rwa [← encodeCoeffs, kept] at unpacked
    rw [numbers] at member
    obtain ⟨coeff, _, rfl⟩ := List.mem_map.mp member
    exact coeff.isLt
  · intro reduced
    rw [encodeCoeffs, map_val_decodeCoeffs_of_lt reduced, pack_unpack (by omega)]

/-! ## Public keys -/

theorem flatten_firstStretches
    {α : Type}
    {width count : Nat}
    {members : List α}
    (whole : members.length = width * count) :
    (firstStretches width count members).flatten = members := by
  induction count generalizing members with
  | zero => exact (List.eq_nil_of_length_eq_zero whole).symm
  | succ count inductionHypothesis =>
      have others : (members.drop width).length = width * count := by
        rw [List.length_drop, whole, Nat.mul_succ, Nat.add_sub_cancel]
      rw [firstStretches, List.flatten_cons, inductionHypothesis others, List.take_append_drop]

theorem length_of_mem_firstStretches
    {α : Type}
    {width count : Nat}
    {members stretch : List α}
    (whole : members.length = width * count)
    (member : stretch ∈ firstStretches width count members) :
    stretch.length = width := by
  induction count generalizing members with
  | zero => cases member
  | succ count inductionHypothesis =>
      rw [Nat.mul_succ] at whole
      rcases List.mem_cons.mp member with rfl | later
      · exact List.length_take_of_le (by omega)
      · exact inductionHypothesis (by rw [List.length_drop]; omega) later

section Accepted

variable {bytes : Bytes} (size : bytes.length = publicKeyLength)

include size

theorem length_row : (bytes.take rowLength).length = 1152 :=
  List.length_take_of_le (size ▸ by decide)

theorem length_decodeCoeffs_row : (decodeCoeffs (bytes.take rowLength)).length = 768 := by
  rw [decodeCoeffs, List.length_map, length_unpack, length_row size]

theorem stretches_decodeCoeffs_row :
    (PublicKey.ofBytes bytes).row =
      firstStretches degreeBound rank (decodeCoeffs (bytes.take rowLength)) := by
  rw [PublicKey.ofBytes, stretches, length_decodeCoeffs_row size]
  rfl

theorem flatten_row :
    (PublicKey.ofBytes bytes).row.flatten = decodeCoeffs (bytes.take rowLength) := by
  rw [stretches_decodeCoeffs_row size,
    flatten_firstStretches (length_decodeCoeffs_row size)]

/-- The bytes of a public key denote a whole one, reduced or not. -/
theorem whole_ofBytes : (PublicKey.ofBytes bytes).Whole where
  rank := by rw [stretches_decodeCoeffs_row size, length_firstStretches]
  full := by
    intro poly member
    rw [stretches_decodeCoeffs_row size] at member
    exact length_of_mem_firstStretches (length_decodeCoeffs_row size) member
  seed := by
    rw [PublicKey.ofBytes, List.length_drop, size]
    rfl

theorem unpack_row : unpack 12 (bytes.take rowLength) = tripleNumbers (bytes.take rowLength) :=
  unpack_eq_tripleNumbers (by rw [length_row size]; decide)

/-- A public key is written as it was read exactly if its coefficients were all reduced. -/
theorem toBytes_ofBytes_iff :
    (PublicKey.ofBytes bytes).toBytes = bytes ↔
      ∀ n ∈ tripleNumbers (bytes.take rowLength), n < modulus := by
  have split := List.take_append_drop rowLength bytes
  rw [PublicKey.toBytes, flatten_row size, PublicKey.ofBytes, ← unpack_row size,
    ← encodeCoeffs_decodeCoeffs_iff (by rw [length_row size]; decide)]
  constructor
  · intro kept
    exact List.append_cancel_right (kept.trans split.symm)
  · intro kept
    rw [kept, split]

end Accepted

/-- Holds of the bytes of a public key whose coefficients are all reduced. -/
structure Canonical (bytes : Bytes) : Prop where
  size : bytes.length = 1184
  reduced : ∀ n ∈ tripleNumbers (bytes.take 1152), n < 3329

instance (bytes : Bytes) : Decidable (Canonical bytes) :=
  decidable_of_iff (bytes.length = 1184 ∧ ∀ n ∈ tripleNumbers (bytes.take 1152), n < 3329)
    ⟨fun both => ⟨both.1, both.2⟩, fun canonical => ⟨canonical.size, canonical.reduced⟩⟩

/-- What the check of a public key gives. -/
theorem ofBytes_eq_ok_iff {bytes : Bytes} {encapsulator : Encapsulator} :
    Encapsulator.ofBytes bytes = .ok encapsulator ↔
      Canonical bytes ∧ encapsulator = ⟨PublicKey.ofBytes bytes, bytes⟩ := by
  unfold Encapsulator.ofBytes
  by_cases size : bytes.length = publicKeyLength
  · simp only [size, not_true_eq_false, if_false, ne_eq]
    by_cases reduced : ∀ n ∈ tripleNumbers (bytes.take rowLength), n < modulus
    · rw [if_pos ((toBytes_ofBytes_iff size).mpr reduced), Except.ok.injEq, eq_comm]
      exact ⟨fun same => ⟨⟨size, reduced⟩, same⟩, And.right⟩
    · rw [if_neg fun kept => reduced ((toBytes_ofBytes_iff size).mp kept)]
      exact ⟨nofun, fun both => absurd both.1.reduced reduced⟩
  · rw [if_pos size]
    exact ⟨nofun, fun both => absurd both.1.size size⟩

/-- A draw from a tape that starts with a seed is the pair of that seed. -/
theorem generate_append {seed : Bytes} (size : seed.length = seedLength) (rest : Tape) :
    generate (seed ++ rest) = (.ok (.ofSeed seed), rest) := by
  unfold generate Tape.draw?
  rw [if_pos (by rw [List.length_append]; omega), List.take_left' size, List.drop_left' size]

/-- The public keys that are accepted are those of 1184 bytes in which the 768 numbers of twelve
bits are below the modulus, whatever the last 32 bytes are.  The key that is held has these numbers
as its coefficients and is written with the bytes that it was read from.  The public key that is
generated from a seed is accepted, and is the one that the seed expands to. -/
theorem accepts_iff_canonical
    (bytes : Bytes)
    {seed : Bytes}
    (size : seed.length = 64)
    (rest : Tape) :
    ((∃ encapsulator, Encapsulator.ofBytes bytes = .ok encapsulator) ↔
        bytes.length = 1184 ∧ ∀ n ∈ tripleNumbers (bytes.take 1152), n < 3329) ∧
      (∀ encapsulator, Encapsulator.ofBytes bytes = .ok encapsulator →
        encapsulator.key.Whole ∧
          (tripleNumbers (bytes.take 1152)).length = 768 ∧
          encapsulator.key.row.flatten.map Fin.val = tripleNumbers (bytes.take 1152) ∧
          encapsulator.key.seed = bytes.drop 1152 ∧
          encapsulator.key.toBytes = bytes ∧
          encapsulator.bytes = bytes) ∧
      ∃ pair, generate (seed ++ rest) = (.ok pair, rest) ∧
        pair.seed = seed ∧
        Encapsulator.ofBytes pair.publicKey = .ok (expandSeed seed).encapsulator := by
  refine ⟨?accepted, ?held, .ofSeed seed, generate_append size rest, rfl, ofBytes_ofSeed seed⟩
  case accepted =>
    constructor
    · rintro ⟨encapsulator, accepted⟩
      obtain ⟨canonical, -⟩ := ofBytes_eq_ok_iff.mp accepted
      exact ⟨canonical.size, canonical.reduced⟩
    · rintro ⟨whole, reduced⟩
      exact ⟨_, ofBytes_eq_ok_iff.mpr ⟨⟨whole, reduced⟩, rfl⟩⟩
  case held =>
    intro encapsulator accepted
    obtain ⟨canonical, rfl⟩ := ofBytes_eq_ok_iff.mp accepted
    have numbers := unpack_row canonical.size
    have reduced : ∀ n ∈ unpack 12 (bytes.take rowLength), n < modulus := by
      rw [numbers]
      exact canonical.reduced
    have coefficients :
        (PublicKey.ofBytes bytes).row.flatten.map Fin.val = tripleNumbers (bytes.take 1152) := by
      rw [flatten_row canonical.size, map_val_decodeCoeffs_of_lt reduced]
      exact numbers
    have whole := whole_ofBytes canonical.size
    refine ⟨whole, ?_, coefficients, rfl,
      (toBytes_ofBytes_iff canonical.size).mpr canonical.reduced, rfl⟩
    rw [← coefficients, List.length_map, whole.length_flatten]

/-- A key whose coefficients are all 3328 is accepted, one that starts with 3329 is not. -/
theorem accepts_greatest_coefficients :
    (∃ encapsulator, Encapsulator.ofBytes
      ((List.replicate 384 [0x00, 0x0d, 0xd0]).flatten ++ List.replicate 32 0xff) =
        .ok encapsulator ∧
      encapsulator.key.toBytes =
        (List.replicate 384 [0x00, 0x0d, 0xd0]).flatten ++ List.replicate 32 0xff) ∧
    ¬ ∃ encapsulator, Encapsulator.ofBytes
      ([0x01, 0x0d, 0xd0] ++ (List.replicate 383 [0x00, 0x0d, 0xd0]).flatten ++
        List.replicate 32 0xff) = .ok encapsulator := by
  have seed : (List.replicate 64 (7 : UInt8)).length = 64 := by decide
  constructor
  · have canonical : Canonical
        ((List.replicate 384 [0x00, 0x0d, 0xd0]).flatten ++ List.replicate 32 0xff) := by
      decide +kernel
    obtain ⟨accepted, held, -⟩ := accepts_iff_canonical
      ((List.replicate 384 [0x00, 0x0d, 0xd0]).flatten ++ List.replicate 32 0xff) seed []
    obtain ⟨encapsulator, isKey⟩ := accepted.mpr ⟨canonical.size, canonical.reduced⟩
    obtain ⟨-, -, -, -, written, -⟩ := held encapsulator isKey
    exact ⟨encapsulator, isKey, written⟩
  · have unreduced : ¬ Canonical
        ([0x01, 0x0d, 0xd0] ++ (List.replicate 383 [0x00, 0x0d, 0xd0]).flatten ++
          List.replicate 32 0xff) := by
      decide +kernel
    obtain ⟨accepted, -, -⟩ := accepts_iff_canonical
      ([0x01, 0x0d, 0xd0] ++ (List.replicate 383 [0x00, 0x0d, 0xd0]).flatten ++
        List.replicate 32 0xff) seed []
    intro isKey
    obtain ⟨size, reduced⟩ := accepted.mp isKey
    exact unreduced ⟨size, reduced⟩

end SealedEnv.Kem
