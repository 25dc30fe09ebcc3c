import SealedEnv.Proofs.Cipher
import SealedEnv.Proofs.Envelope
import SealedEnv.Proofs.Kem.Numeric
import SealedEnv.Vault.KeyFile
import SealedEnv.Vault.Value

/-!
Contract: a sealed value is unsealed to its plaintext.

Owns:
- the round trip of one value, bare or in quotes, and of one key file;
- `unsealValue_inverts_sealValue`, on which bytes it fails;
- values that are sealed for the seed of zeros.

Does not own: that key pairs open what they encapsulate.
-/

namespace SealedEnv.Vault

/-! ## Values -/

theorem sealValue_eq_ok
    {encapsulator : Kem.Encapsulator}
    {plaintext : Bytes}
    {tape : Tape}
    {value : String}
    (sealed : (sealValue encapsulator plaintext tape).1 = .ok value) :
    ∃ blob, (Cipher.encrypt (encapsulator.encapsulate tape).1.1 plaintext
        (encapsulator.encapsulate tape).2).1 = .ok blob ∧
      value = Envelope.build (encapsulator.encapsulate tape).1.2 blob := by
  unfold sealValue at sealed
  split at sealed
  rename_i shared capsule between encapsulated
  rw [encapsulated]
  split at sealed
  rename_i blob? rest encrypted
  split at sealed
  · rename_i blob
    cases sealed
    exact ⟨blob, by simp only [encrypted], rfl⟩
  · contradiction

/-- Encapsulation gives a secret of the size of a cipher key. -/
theorem length_shared (encapsulator : Kem.Encapsulator) (tape : Tape) :
    (encapsulator.encapsulate tape).1.1.length = Cipher.keyLength :=
  Kem.length_encapsulateWith encapsulator _

/-- Sealing fails only for want of a nonce, or of a cipher for so long a plaintext. -/
theorem sealValue_apply (encapsulator : Kem.Encapsulator) (plaintext : Bytes) (tape : Tape) :
    (sealValue encapsulator plaintext tape).1 =
      match (encapsulator.encapsulate tape).2.draw? Cipher.nonceLength with
      | none => .error (.encryptionFailed Cipher.Refusal.randomSourceFailed.message)
      | some (nonce, _) =>
        if Cipher.plaintextLimit < plaintext.length then
          .error (.encryptionFailed Cipher.Refusal.encryptionFailed.message)
        else .ok (Envelope.build (encapsulator.encapsulate tape).1.2
          (nonce ++ Cipher.sealWith (encapsulator.encapsulate tape).1.1 nonce plaintext)) := by
  unfold sealValue Cipher.encrypt
  simp only []
  rw [if_neg (not_not_intro (length_shared encapsulator tape))]
  cases (encapsulator.encapsulate tape).2.draw? Cipher.nonceLength with
  | none => rfl
  | some drawn =>
      by_cases long : Cipher.plaintextLimit < plaintext.length
      · simp only [if_pos long]
      · simp only [if_neg long]

section Sealing

variable {encapsulator : Kem.Encapsulator} {plaintext : Bytes} {tape : Tape}

theorem exists_sealValue_iff :
    (∃ value, (sealValue encapsulator plaintext tape).1 = .ok value) ↔
      ((encapsulator.encapsulate tape).2.draw? Cipher.nonceLength).isSome = true ∧
        plaintext.length ≤ Cipher.plaintextLimit := by
  rw [sealValue_apply]
  cases (encapsulator.encapsulate tape).2.draw? Cipher.nonceLength with
  | none => simp
  | some drawn =>
      by_cases long : Cipher.plaintextLimit < plaintext.length
      · simp only [if_pos long]
        simp [long]
      · simp only [if_neg long]
        simp [Nat.le_of_not_lt long]

theorem encryptionFailed_of_sealValue
    {failure : Failure}
    (failed : (sealValue encapsulator plaintext tape).1 = .error failure) :
    ∃ cause, failure = .encryptionFailed cause := by
  rw [sealValue_apply] at failed
  split at failed
  · exact ⟨_, (Except.error.inj failed).symm⟩
  · split at failed
    · exact ⟨_, (Except.error.inj failed).symm⟩
    · contradiction

end Sealing

/-- A value is sealed if the tape holds a message and a nonce. -/
theorem exists_sealValue
    (encapsulator : Kem.Encapsulator)
    {plaintext : Bytes}
    (fits : plaintext.length ≤ Cipher.plaintextLimit)
    {tape : Tape}
    (enough : 32 + Cipher.nonceLength ≤ tape.length) :
    ∃ value, (sealValue encapsulator plaintext tape).1 = .ok value := by
  have left : Cipher.nonceLength ≤ (encapsulator.encapsulate tape).2.length := by
    have rest : (encapsulator.encapsulate tape).2 = tape.drop 32 := rfl
    rw [rest, List.length_drop]
    omega
  refine exists_sealValue_iff.mpr ⟨?_, fits⟩
  rw [Tape.draw?, if_pos left]
  rfl

/-- A plaintext as a text, where it is one. -/
def textOf (key : String) (plaintext : Bytes) : Except Failure String :=
  match Utf8.decode? plaintext with
  | some text => .ok text
  | none => .error (.decryptionFailed key notTextCause)

theorem textOf_encode (key text : String) : textOf key (Utf8.encode text) = .ok text := by
  rw [textOf, Utf8.decode?_encode]

/-- What is sealed with a key is decrypted with the one that opens it. -/
theorem unsealValue_eq_textOf
    {encapsulator : Kem.Encapsulator}
    {decapsulator : Kem.Decapsulator}
    {tape : Tape}
    (opens : Kem.Opens encapsulator decapsulator tape)
    {plaintext : Bytes}
    {value : String}
    (sealed : (sealValue encapsulator plaintext tape).1 = .ok value)
    (key : String) :
    unsealValue key value decapsulator = textOf key plaintext := by
  obtain ⟨blob, encrypted, rfl⟩ := sealValue_eq_ok sealed
  have sharedSize : (encapsulator.encapsulate tape).1.1.length = Kem.sharedLength :=
    length_shared encapsulator tape
  unfold unsealValue textOf
  rw [Envelope.isSealed_build, Envelope.parse_build]
  simp only [Bool.not_true, Bool.false_eq_true, if_false, Except.mapError, bind, Except.bind,
    pure, Except.pure]
  rw [Base64.decode_encode, Base64.decode_encode]
  simp only []
  rw [opens]
  simp only []
  rw [if_neg (not_not_intro sharedSize), Cipher.decrypt_of_encrypt encrypted]
  rfl

/-- What is sealed with a key is unsealed with the one that opens it. -/
theorem unsealValue_of_sealValue
    {encapsulator : Kem.Encapsulator}
    {decapsulator : Kem.Decapsulator}
    {tape : Tape}
    (opens : Kem.Opens encapsulator decapsulator tape)
    {plaintext value : String}
    (sealed : (sealValue encapsulator (Utf8.encode plaintext) tape).1 = .ok value)
    (key : String) :
    unsealValue key value decapsulator = .ok plaintext := by
  rw [unsealValue_eq_textOf opens sealed, textOf_encode]

/-- A value is unsealed without its quotes. -/
theorem unsealValue_congr
    {left right : String}
    (same : Envelope.unquote left.toList = Envelope.unquote right.toList)
    (key : String)
    (decapsulator : Kem.Decapsulator) :
    unsealValue key left decapsulator = unsealValue key right decapsulator := by
  unfold unsealValue
  rw [Envelope.isSealed_congr same, Envelope.parse_congr same]

theorem unquote_of_sealValue
    {encapsulator : Kem.Encapsulator}
    {plaintext : Bytes}
    {tape : Tape}
    {value stored : String}
    (sealed : (sealValue encapsulator plaintext tape).1 = .ok value)
    (isStored : stored = value ∨ stored = Envelope.quoted value) :
    Envelope.unquote stored.toList = Envelope.unquote value.toList := by
  obtain ⟨blob, -, rfl⟩ := sealValue_eq_ok sealed
  rcases isStored with rfl | rfl
  · rfl
  · rw [Envelope.unquote_quoted, Envelope.unquote_build]

/-- Holds of a value that was sealed for a key, which opens it, and may have been put in quotes. -/
def Seals (decapsulator : Kem.Decapsulator) (plaintext value : String) : Prop :=
  ∃ tape bare, Kem.Opens decapsulator.encapsulator decapsulator tape ∧
    (sealValue decapsulator.encapsulator (Utf8.encode plaintext) tape).1 = .ok bare ∧
    (value = bare ∨ value = Envelope.quoted bare)

namespace Seals

variable {decapsulator : Kem.Decapsulator} {plaintext value : String}

theorem isBuilt (seals : Seals decapsulator plaintext value) :
    ∃ capsule blob, value = Envelope.build capsule blob ∨
      value = Envelope.quoted (Envelope.build capsule blob) := by
  obtain ⟨tape, bare, -, sealed, isValue⟩ := seals
  obtain ⟨blob, -, rfl⟩ := sealValue_eq_ok sealed
  exact ⟨_, blob, isValue⟩

theorem isSealed (seals : Seals decapsulator plaintext value) :
    Envelope.isSealed value = true := by
  obtain ⟨tape, bare, -, sealed, isValue⟩ := seals
  rw [Envelope.isSealed_congr (unquote_of_sealValue sealed isValue)]
  obtain ⟨blob, -, rfl⟩ := sealValue_eq_ok sealed
  exact Envelope.isSealed_build _ blob

theorem unsealValue (seals : Seals decapsulator plaintext value) (key : String) :
    unsealValue key value decapsulator = .ok plaintext := by
  obtain ⟨tape, bare, opens, sealed, isValue⟩ := seals
  rw [unsealValue_congr (unquote_of_sealValue sealed isValue)]
  exact unsealValue_of_sealValue opens sealed key

end Seals

/-! ## The seed of zeros -/

namespace Zeros

def seed : Bytes := List.replicate 64 0

theorem enough : 32 + Cipher.nonceLength ≤ (List.replicate 44 (0 : UInt8)).length := by decide

/-- A plaintext as it is sealed for the seed of zeros with zeros drawn. -/
@[irreducible]
def sealed (plaintext : String) : String :=
  ((sealValue (Kem.expandSeed seed).encapsulator (Utf8.encode plaintext)
    (List.replicate 44 0)).1.toOption).getD ""

theorem seals
    {plaintext value : String}
    (fits : (Utf8.encode plaintext).length ≤ Cipher.plaintextLimit)
    (isValue : value = sealed plaintext ∨ value = Envelope.quoted (sealed plaintext)) :
    Seals (Kem.expandSeed seed) plaintext value := by
  obtain ⟨bare, isBare⟩ := exists_sealValue (Kem.expandSeed seed).encapsulator fits enough
  have isSealed : sealed plaintext = bare := by
    unfold sealed
    rw [isBare]
    rfl
  rw [isSealed] at isValue
  exact ⟨_, bare, Kem.opens_zeros rfl, isBare, isValue⟩

end Zeros

/-! ## Any bytes -/

/-- The keys of a seed are read, and whatever bytes are sealed with them, sealing succeeds just if a
nonce is drawn, if the cipher is correct for these bytes, and is a failed encryption else; for other
bytes it always is.  The value, bare or in quotes, is then unsealed to the text that was sealed; if
the bytes are no text, that is what is reported under the key, whichever it is.  All that is asked
of the keys is that they open this one encapsulation. -/
theorem unsealValue_inverts_sealValue
    {seed : Bytes}
    (isSeed : seed.length = Kem.seedLength) :
    ∃ decapsulator encapsulator,
      Kem.Decapsulator.ofSeed seed = .ok decapsulator ∧
      Kem.Encapsulator.ofBytes (Kem.KeyPair.ofSeed seed).publicKey = .ok encapsulator ∧
      ∀ (plaintext : Bytes) (tape : Tape),
        let sealing := (sealValue encapsulator plaintext tape).1
        let nonce? := (encapsulator.encapsulate tape).2.draw? Cipher.nonceLength
        (Cipher.CorrectFor plaintext → ((∃ value, sealing = .ok value) ↔ nonce?.isSome)) ∧
        (¬Cipher.CorrectFor plaintext → ∀ value, sealing ≠ .ok value) ∧
        (∀ failure, sealing = .error failure → ∃ cause, failure = .encryptionFailed cause) ∧
        (Kem.Opens encapsulator decapsulator tape → ∀ value stored, sealing = .ok value →
          stored = value ∨ stored = Envelope.quoted value → ∀ key,
            (∀ text, plaintext = Utf8.encode text →
              unsealValue key stored decapsulator = .ok text) ∧
            ((∀ text, plaintext ≠ Utf8.encode text) →
              unsealValue key stored decapsulator =
                .error (.decryptionFailed key "plaintext is not valid UTF-8"))) := by
  refine ⟨Kem.expandSeed seed, (Kem.expandSeed seed).encapsulator,
    if_neg (not_not_intro isSeed), Kem.ofBytes_ofSeed seed, ?_⟩
  intro plaintext tape sealing nonce?
  refine ⟨fun correct => ?_, fun incorrect value isValue => ?_,
    fun failure failed => encryptionFailed_of_sealValue failed, ?_⟩
  · exact exists_sealValue_iff.trans (and_iff_left (Cipher.correctFor_iff.mp correct))
  · obtain ⟨-, fits⟩ := exists_sealValue_iff.mp ⟨value, isValue⟩
    exact incorrect (Cipher.correctFor_iff.mpr fits)
  intro opens value stored isValue isStored key
  have unsealed : unsealValue key stored (Kem.expandSeed seed) = textOf key plaintext := by
    rw [unsealValue_congr (unquote_of_sealValue isValue isStored),
      unsealValue_eq_textOf opens isValue]
  rw [unsealed]
  constructor
  · rintro text rfl
    exact textOf_encode key text
  · intro noText
    have undecoded : Utf8.decode? plaintext = none := by
      rw [Option.eq_none_iff_forall_ne_some]
      intro text decoded
      exact noText text (Utf8.encode_of_decode? decoded).symm
    rw [textOf, undecoded]
    rfl

/-- Bytes that are no text are sealed all the same. -/
theorem unsealValue_inverts_sealValue_notText :
    ∃ decapsulator value, Kem.Decapsulator.ofSeed Zeros.seed = .ok decapsulator ∧
      (sealValue decapsulator.encapsulator [255] (List.replicate 44 0)).1 = .ok value ∧
      unsealValue "K" (Envelope.quoted value) decapsulator =
        .error (.decryptionFailed "K" "plaintext is not valid UTF-8") := by
  have isSeed : Zeros.seed.length = Kem.seedLength := List.length_replicate
  obtain ⟨decapsulator, encapsulator, isDecapsulator, isEncapsulator, sealing⟩ :=
    unsealValue_inverts_sealValue isSeed
  have expanded : decapsulator = Kem.expandSeed Zeros.seed := by
    rw [Kem.Decapsulator.ofSeed, if_neg (not_not_intro isSeed)] at isDecapsulator
    exact (Except.ok.inj isDecapsulator).symm
  have sameKey : encapsulator = decapsulator.encapsulator := by
    rw [Kem.ofBytes_ofSeed, ← expanded] at isEncapsulator
    exact (Except.ok.inj isEncapsulator).symm
  have opens : Kem.Opens encapsulator decapsulator (List.replicate 44 0) := by
    rw [sameKey, expanded]
    exact Kem.opens_zeros rfl
  have correct : Cipher.CorrectFor [255] := Cipher.correctFor_iff.mpr (by decide)
  obtain ⟨succeeds, -, -, unsealed⟩ := sealing [255] (List.replicate 44 0)
  obtain ⟨value, isValue⟩ := (succeeds correct).mpr rfl
  have noText : ∀ text, ([255] : Bytes) ≠ Utf8.encode text := by
    intro text same
    have undecoded : Utf8.decode? [255] = none := by decide
    rw [same, Utf8.decode?_encode] at undecoded
    exact Option.some_ne_none text undecoded
  refine ⟨decapsulator, value, isDecapsulator, sameKey ▸ isValue, ?_⟩
  exact (unsealed opens value _ isValue (.inr rfl) "K").2 noText

/-! ## Key files -/

theorem keyText_line (key : Bytes) :
    keyText (Base64.encode key ++ "\n") = Base64.encode key := by
  have noBlank : ∀ c ∈ (Base64.encode key).toList, Text.isBlank c = false := by
    intro c member
    exact (Base64.not_blank_of_mem_encode member).1
  have text : (Base64.encode key ++ "\n").toList = (Base64.encode key).toList ++ ['\n'] := by
    simp
  unfold keyText
  rw [text, Text.trim_append_blank noBlank (by decide), String.ofList_toList]

end SealedEnv.Vault
