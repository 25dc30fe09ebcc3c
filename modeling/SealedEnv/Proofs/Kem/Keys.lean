import SealedEnv.Kem.Scheme
import SealedEnv.Proofs.Kem.Shape

/-!
Contract: the keys of seeds are read back from their bytes.

Owns:
- the round trip of coefficients and of public keys, and what a fresh pair is made of;
- the size of a shared secret;
- `Opens`, what is asked of a pair of keys and the randomness of one encapsulation, and when the
  keys of one seed have it.

Does not own: that every encapsulation is opened, which holds for nearly all randomness and not for
all.
-/

namespace SealedEnv.Kem

/-! ## Coefficients -/

theorem length_encodeCoeffs (coeffs : List Coeff) :
    (encodeCoeffs coeffs).length = 12 * coeffs.length / 8 := by
  rw [encodeCoeffs, length_pack, List.length_map]

/-- An even number of coefficients is read back from its bytes. -/
theorem decodeCoeffs_encodeCoeffs
    {coeffs : List Coeff}
    (even : 2 ∣ coeffs.length) :
    decodeCoeffs (encodeCoeffs coeffs) = coeffs := by
  have below : ∀ n ∈ coeffs.map Fin.val, n < 2 ^ 12 := by
    intro n member
    obtain ⟨coeff, _, rfl⟩ := List.mem_map.mp member
    exact Nat.lt_trans coeff.isLt (by decide)
  have whole : 8 ∣ 12 * (coeffs.map Fin.val).length := by
    rw [List.length_map]
    omega
  have same : ∀ coeff : Coeff, reduce coeff.val = coeff := fun coeff =>
    Fin.ext (Nat.mod_eq_of_lt coeff.isLt)
  rw [decodeCoeffs, encodeCoeffs, unpack_pack (by decide) below whole, List.map_map]
  simp [Function.comp_def, same]

/-! ## Public keys -/

theorem firstStretches_flatten
    {α : Type}
    {width : Nat}
    {rows : List (List α)}
    (equal : ∀ row ∈ rows, row.length = width) :
    firstStretches width rows.length rows.flatten = rows := by
  induction rows with
  | nil => rfl
  | cons row rest inductionHypothesis =>
      have size := equal row List.mem_cons_self
      have others := inductionHypothesis fun other member =>
        equal other (List.mem_cons_of_mem row member)
      rw [List.length_cons, firstStretches, List.flatten_cons, List.take_left' size,
        List.drop_left' size, others]

section Whole

variable {key : PublicKey} (whole : key.Whole)

include whole

theorem PublicKey.Whole.length_flatten : key.row.flatten.length = 768 := by
  rw [length_flatten_of_equal whole.full, whole.rank]
  rfl

theorem PublicKey.Whole.length_toBytes : key.toBytes.length = publicKeyLength := by
  rw [PublicKey.toBytes, List.length_append, length_encodeCoeffs, whole.length_flatten, whole.seed]
  rfl

/-- A public key is the one that its bytes denote. -/
theorem PublicKey.Whole.ofBytes_toBytes : PublicKey.ofBytes key.toBytes = key := by
  have coded : (encodeCoeffs key.row.flatten).length = rowLength := by
    rw [length_encodeCoeffs, whole.length_flatten]
    rfl
  have count : key.row.flatten.length / degreeBound = key.row.length := by
    rw [whole.length_flatten, whole.rank]
    rfl
  have even : 2 ∣ key.row.flatten.length := by
    rw [whole.length_flatten]
    decide
  rw [PublicKey.ofBytes, PublicKey.toBytes, List.take_left' coded, List.drop_left' coded,
    decodeCoeffs_encodeCoeffs even, stretches, count, firstStretches_flatten whole.full]

/-- The bytes of a public key pass the check that they are read with. -/
theorem PublicKey.Whole.encapsulator_ofBytes :
    Encapsulator.ofBytes key.toBytes = .ok ⟨key, key.toBytes⟩ := by
  unfold Encapsulator.ofBytes
  simp only [whole.ofBytes_toBytes]
  rw [if_neg (not_not_intro whole.length_toBytes), if_pos trivial]

end Whole

/-- The public key of a fresh pair is the one that the private seed expands to. -/
theorem ofBytes_ofSeed (seed : Bytes) :
    Encapsulator.ofBytes (KeyPair.ofSeed seed).publicKey = .ok (expandSeed seed).encapsulator :=
  (whole_expandKey (seed.take 32)).encapsulator_ofBytes

theorem length_publicKey_ofSeed (seed : Bytes) :
    (KeyPair.ofSeed seed).publicKey.length = publicKeyLength :=
  (whole_expandKey (seed.take 32)).length_toBytes

/-- A pair that was drawn is that of the first bytes of the tape. -/
theorem generate_eq_ok
    {tape : Tape}
    {pair : KeyPair}
    (generated : (generate tape).1 = .ok pair) :
    seedLength ≤ tape.length ∧ pair = .ofSeed (tape.take seedLength) := by
  unfold generate Tape.draw? at generated
  split at generated
  · contradiction
  · rename_i seed rest drawn
    split at drawn
    · rename_i enough
      cases drawn
      cases generated
      exact ⟨enough, rfl⟩
    · contradiction

/-- A draw that fails takes nothing from the tape. -/
theorem generate_eq_error
    {tape : Tape}
    {refusal : Refusal}
    (fails : (generate tape).1 = .error refusal) :
    (generate tape).2 = tape := by
  unfold generate at fails ⊢
  split at fails
  · rfl
  · contradiction

/-! ## Encapsulation -/

theorem length_encapsulateWith (encapsulator : Encapsulator) (message : Bytes) :
    (encapsulator.encapsulateWith message).1.length = sharedLength :=
  List.length_take_of_le (by rw [length_digest512]; decide)

/-- A secret has one length, be it that of the message or what stands in for it. -/
theorem length_sharedSecret (decapsulator : Decapsulator) (ciphertext : Bytes) :
    (decapsulator.sharedSecret ciphertext).length = sharedLength := by
  unfold Decapsulator.sharedSecret
  simp only []
  split
  · exact length_encapsulateWith decapsulator.encapsulator _
  · exact length_stream256 (by decide) (by decide) _

theorem Decapsulator.decapsulate_eq_ok_iff
    {decapsulator : Decapsulator}
    {ciphertext shared : Bytes} :
    decapsulator.decapsulate ciphertext = .ok shared ↔
      ciphertext.length = Kem.ciphertextLength ∧ shared = decapsulator.sharedSecret ciphertext := by
  unfold decapsulate
  by_cases size : ciphertext.length = Kem.ciphertextLength
  · rw [if_neg (not_not_intro size)]
    simp [size, eq_comm]
  · rw [if_pos size]
    simp [size]

theorem length_of_decapsulate
    {decapsulator : Decapsulator}
    {ciphertext shared : Bytes}
    (decapsulated : decapsulator.decapsulate ciphertext = .ok shared) :
    shared.length = sharedLength := by
  obtain ⟨-, rfl⟩ := Decapsulator.decapsulate_eq_ok_iff.mp decapsulated
  exact length_sharedSecret decapsulator ciphertext

/-- Holds if decapsulation gives the secret back that is encapsulated with the randomness of a
tape. -/
def Opens (encapsulator : Encapsulator) (decapsulator : Decapsulator) (tape : Tape) : Prop :=
  decapsulator.decapsulate (encapsulator.encapsulate tape).1.2 =
    .ok (encapsulator.encapsulate tape).1.1

theorem length_drawPadded (count : Nat) (tape : Tape) :
    (tape.drawPadded count).1.length = count := by
  simp only [Tape.drawPadded, List.length_append, List.length_take, List.length_replicate]
  omega

/-- The keys of a seed open what they encapsulate if decryption recovers the message. -/
theorem opens_of_decryptMessage
    {seed : Bytes}
    {tape : Tape}
    (recovers : decryptMessage (expandSeed seed).secret
        ((expandSeed seed).encapsulator.encapsulate tape).1.2 = (tape.drawPadded 32).1) :
    Opens (expandSeed seed).encapsulator (expandSeed seed) tape := by
  have size : ((expandSeed seed).encapsulator.encapsulate tape).1.2.length = ciphertextLength :=
    length_encryptMessage (whole_expandKey (seed.take 32)) (length_drawPadded 32 tape) _
  have again : (expandSeed seed).encapsulator.encapsulateWith (tape.drawPadded 32).1 =
      ((expandSeed seed).encapsulator.encapsulate tape).1 := rfl
  unfold Opens Decapsulator.decapsulate Decapsulator.sharedSecret
  rw [if_neg (not_not_intro size)]
  simp only [recovers, again, if_true]

end SealedEnv.Kem
