import SealedEnv.Proofs.Vault.Value

/-!
Contract: a value that cannot be unsealed tells nothing of the private key but whether its blob
authenticates and holds a text.

Owns:
- `TextFault`, the failures that a stored text has under every key;
- `Verdict`, the outcomes of a stored text that gets as far as authenticated decryption;
- `unsealValue_tells_no_key`, that there is nothing else;
- `ValueFault`, the failures of a sealed value, each of which names its key.

Does not own: which blobs authenticate under a key.
-/

namespace SealedEnv.Vault

/-! ## Two kinds of failure -/

/-- Holds of the failure that a stored text has whatever the private key, as a function of the name
that it is stored under. -/
inductive TextFault (stored : String) : (String → Failure) → Prop where
  | notSealed (bare : Envelope.isSealed stored = false) : TextFault stored .valueNotSealed
  | undivided
      (isSealed : Envelope.isSealed stored = true)
      (noSeparator : Envelope.parse stored = .error .missingSeparator) :
      TextFault stored fun key =>
        .malformedSealedValue key "missing separator between ciphertext segments"
  | capsule
      {segments : Envelope.Segments}
      {source : Base64.DecodeError}
      (parsed : Envelope.parse stored = .ok segments)
      (undecoded : Base64.decode segments.capsule = .error source) :
      TextFault stored fun key => .invalidCapsuleBase64 key source
  | blob
      {segments : Envelope.Segments}
      {capsule : Bytes}
      {source : Base64.DecodeError}
      (parsed : Envelope.parse stored = .ok segments)
      (decoded : Base64.decode segments.capsule = .ok capsule)
      (undecoded : Base64.decode segments.blob = .error source) :
      TextFault stored fun key => .invalidBlobBase64 key source
  | capsuleSize
      {capsule blob : Bytes}
      (denotes : Envelope.Denotes stored capsule blob)
      (otherSize : capsule.length ≠ Kem.ciphertextLength) :
      TextFault stored fun key =>
        .decapsulationFailed key (Kem.Refusal.ciphertextLength capsule.length).message
  | shortBlob
      {capsule blob : Bytes}
      (denotes : Envelope.Denotes stored capsule blob)
      (size : capsule.length = Kem.ciphertextLength)
      (short : blob.length < Cipher.nonceLength) :
      TextFault stored fun key =>
        .decryptionFailed key (Cipher.Refusal.blobTooShort blob.length).message

/-- Holds of what becomes of a value by the outcome of its authenticated decryption. -/
inductive Verdict (key : String) (decrypted : Except Cipher.Refusal Bytes) :
    Except Failure String → Prop where
  | text {text : String} (isText : decrypted = .ok (Utf8.encode text)) :
      Verdict key decrypted (.ok text)
  | notText
      {plaintext : Bytes}
      (isPlaintext : decrypted = .ok plaintext)
      (noText : ∀ text, plaintext ≠ Utf8.encode text) :
      Verdict key decrypted (.error (.decryptionFailed key "plaintext is not valid UTF-8"))
  | notAuthentic (refused : decrypted = .error .authenticationFailed) :
      Verdict key decrypted (.error (.decryptionFailed key "message authentication failed"))

/-! ## One stage after the other -/

section Stages

variable {stored : String} (key : String) (decapsulator : Kem.Decapsulator)

theorem unsealValue_of_bare (bare : Envelope.isSealed stored = false) :
    unsealValue key stored decapsulator = .error (.valueNotSealed key) := by
  unfold unsealValue
  rw [bare]
  rfl

theorem unsealValue_of_unparsed
    (isSealed : Envelope.isSealed stored = true)
    {refusal : Envelope.ParseError}
    (unparsed : Envelope.parse stored = .error refusal) :
    unsealValue key stored decapsulator =
      .error (.malformedSealedValue key refusal.message) := by
  unfold unsealValue
  rw [isSealed, unparsed]
  rfl

variable {segments : Envelope.Segments} (parsed : Envelope.parse stored = .ok segments)

include parsed

/-- The segments of a text that is taken apart are decoded one after the other. -/
theorem unsealValue_of_parse :
    unsealValue key stored decapsulator =
      ((Base64.decode segments.capsule).mapError (.invalidCapsuleBase64 key)).bind fun capsule =>
        ((Base64.decode segments.blob).mapError (.invalidBlobBase64 key)).bind fun blob =>
          ((decapsulator.decapsulate capsule).mapError fun refusal =>
            .decapsulationFailed key refusal.message).bind fun shared =>
              ((Cipher.decrypt shared blob).mapError fun refusal =>
                .decryptionFailed key refusal.message).bind (textOf key) := by
  have isSealed : Envelope.isSealed stored = true := Envelope.isSealed_of_parse parsed
  unfold unsealValue
  rw [isSealed, parsed]
  simp only [Bool.not_true, Bool.false_eq_true, if_false, Except.mapError, bind, Except.bind,
    pure, Except.pure]
  cases Base64.decode segments.capsule with
  | error source => rfl
  | ok capsule =>
      cases Base64.decode segments.blob with
      | error source => rfl
      | ok blob =>
          simp only []
          cases decapsulated : decapsulator.decapsulate capsule with
          | error refusal => rfl
          | ok shared =>
              -- Every secret has the size that is asked for, so that check is idle.
              simp only []
              rw [if_neg (not_not_intro (Kem.length_of_decapsulate decapsulated))]
              rfl

end Stages

/-- A text that stands for a capsule and a blob is what they are decrypted to. -/
theorem unsealValue_of_denotes
    {stored : String}
    {capsule blob : Bytes}
    (denotes : Envelope.Denotes stored capsule blob)
    (key : String)
    (decapsulator : Kem.Decapsulator) :
    unsealValue key stored decapsulator =
      ((decapsulator.decapsulate capsule).mapError fun refusal =>
        .decapsulationFailed key refusal.message).bind fun shared =>
          ((Cipher.decrypt shared blob).mapError fun refusal =>
            .decryptionFailed key refusal.message).bind (textOf key) := by
  obtain ⟨segments, parsed, capsuleRead, blobRead⟩ := denotes
  rw [unsealValue_of_parse key decapsulator parsed, capsuleRead, blobRead]
  rfl

/-- A text stands for a capsule and a blob, or is at fault before any key is looked at. -/
theorem denotes_or_fault (stored : String) :
    (∃ capsule blob, Envelope.Denotes stored capsule blob) ∨
      ∃ fault, TextFault stored fault ∧
        ∀ key decapsulator, unsealValue key stored decapsulator = .error (fault key) := by
  cases isSealed : Envelope.isSealed stored with
  | false =>
      exact .inr ⟨_, .notSealed isSealed, fun key decapsulator =>
        unsealValue_of_bare key decapsulator isSealed⟩
  | true =>
      cases parsed : Envelope.parse stored with
      | error refusal =>
          have noSeparator := Envelope.eq_missingSeparator_of_parse isSealed parsed
          rw [noSeparator] at parsed
          exact .inr ⟨_, .undivided isSealed parsed, fun key decapsulator =>
            unsealValue_of_unparsed key decapsulator isSealed parsed⟩
      | ok segments =>
          cases capsuleRead : Base64.decode segments.capsule with
          | error source =>
              refine .inr ⟨_, .capsule parsed capsuleRead, fun key decapsulator => ?_⟩
              rw [unsealValue_of_parse key decapsulator parsed, capsuleRead]
              rfl
          | ok capsule =>
              cases blobRead : Base64.decode segments.blob with
              | error source =>
                  refine .inr ⟨_, .blob parsed capsuleRead blobRead, fun key decapsulator => ?_⟩
                  rw [unsealValue_of_parse key decapsulator parsed, capsuleRead, blobRead]
                  rfl
              | ok blob => exact .inl ⟨capsule, blob, segments, parsed, capsuleRead, blobRead⟩

/-! ## Before and after authentication -/

theorem unsealValue_of_capsuleSize
    {stored : String}
    {capsule blob : Bytes}
    (denotes : Envelope.Denotes stored capsule blob)
    (otherSize : capsule.length ≠ Kem.ciphertextLength)
    (key : String)
    (decapsulator : Kem.Decapsulator) :
    unsealValue key stored decapsulator =
      .error (.decapsulationFailed key
        (Kem.Refusal.ciphertextLength capsule.length).message) := by
  rw [unsealValue_of_denotes denotes, Kem.Decapsulator.decapsulate, if_pos otherSize]
  rfl

section Decapsulated

variable
  {stored : String}
  {capsule blob : Bytes}
  (denotes : Envelope.Denotes stored capsule blob)
  (size : capsule.length = Kem.ciphertextLength)

include denotes size

theorem unsealValue_of_capsule (key : String) (decapsulator : Kem.Decapsulator) :
    unsealValue key stored decapsulator =
      ((Cipher.decrypt (decapsulator.sharedSecret capsule) blob).mapError fun refusal =>
        .decryptionFailed key refusal.message).bind (textOf key) := by
  have decapsulated : decapsulator.decapsulate capsule = .ok (decapsulator.sharedSecret capsule) :=
    Kem.Decapsulator.decapsulate_eq_ok_iff.mpr ⟨size, rfl⟩
  rw [unsealValue_of_denotes denotes, decapsulated]
  rfl

theorem unsealValue_of_shortBlob
    (short : blob.length < Cipher.nonceLength)
    (key : String)
    (decapsulator : Kem.Decapsulator) :
    unsealValue key stored decapsulator =
      .error (.decryptionFailed key (Cipher.Refusal.blobTooShort blob.length).message) := by
  have keySize := Kem.length_sharedSecret decapsulator capsule
  rw [unsealValue_of_capsule denotes size, Cipher.decrypt_of_short keySize short]
  rfl

/-- A blob that holds a nonce is judged by its decryption, whatever the secret. -/
theorem verdict_of_capsule
    (enough : Cipher.nonceLength ≤ blob.length)
    (key : String)
    (decapsulator : Kem.Decapsulator) :
    Verdict key (Cipher.decrypt (decapsulator.sharedSecret capsule) blob)
      (unsealValue key stored decapsulator) := by
  have keySize := Kem.length_sharedSecret decapsulator capsule
  rw [unsealValue_of_capsule denotes size]
  cases decrypted : Cipher.decrypt (decapsulator.sharedSecret capsule) blob with
  | error refusal =>
      obtain rfl := Cipher.refusal_of_decrypt keySize enough decrypted
      exact .notAuthentic rfl
  | ok plaintext =>
      show Verdict key (.ok plaintext) (textOf key plaintext)
      unfold textOf
      cases decoded : Utf8.decode? plaintext with
      | some text =>
          obtain rfl := Utf8.encode_of_decode? decoded
          exact .text rfl
      | none =>
          refine .notText rfl fun text same => ?_
          rw [same, Utf8.decode?_encode] at decoded
          contradiction

end Decapsulated

/-- A stored text is at fault by itself, and is then reported so under every name and for every
private key, or it stands for a capsule and a blob that every private key takes as far as
authenticated decryption.  There each key finds a secret of the right size, and all that is told is
whether the blob authenticates with it, and whether it holds a text. -/
theorem unsealValue_tells_no_key (stored : String) :
    (∃ fault, TextFault stored fault ∧
      ∀ key decapsulator, unsealValue key stored decapsulator = .error (fault key)) ∨
    ∃ capsule blob, Envelope.Denotes stored capsule blob ∧ Cipher.nonceLength ≤ blob.length ∧
      ∀ key decapsulator, ∃ shared, decapsulator.decapsulate capsule = .ok shared ∧
        shared.length = Kem.sharedLength ∧
          Verdict key (Cipher.decrypt shared blob) (unsealValue key stored decapsulator) := by
  rcases denotes_or_fault stored with ⟨capsule, blob, denotes⟩ | atFault
  · by_cases size : capsule.length = Kem.ciphertextLength
    · by_cases short : blob.length < Cipher.nonceLength
      · exact .inl ⟨_, .shortBlob denotes size short, unsealValue_of_shortBlob denotes size short⟩
      · have enough := Nat.le_of_not_lt short
        refine .inr ⟨capsule, blob, denotes, enough, fun key decapsulator => ?_⟩
        exact ⟨_, Kem.Decapsulator.decapsulate_eq_ok_iff.mpr ⟨size, rfl⟩,
          Kem.length_sharedSecret decapsulator capsule,
          verdict_of_capsule denotes size enough key decapsulator⟩
    · exact .inl ⟨_, .capsuleSize denotes size, unsealValue_of_capsuleSize denotes size⟩
  · exact .inl atFault

/-! ## The failures of sealed values -/

/-- Holds of the failures of a sealed value that is stored under a name. -/
inductive ValueFault (key : String) : Failure → Prop where
  | undivided : ValueFault key
      (.malformedSealedValue key "missing separator between ciphertext segments")
  | capsule (source : Base64.DecodeError) : ValueFault key (.invalidCapsuleBase64 key source)
  | blob (source : Base64.DecodeError) : ValueFault key (.invalidBlobBase64 key source)
  | decapsulation (cause : String) : ValueFault key (.decapsulationFailed key cause)
  | decryption (cause : String) : ValueFault key (.decryptionFailed key cause)

/-- A value is not sealed, or what is wrong with it is one of the faults of sealed values. -/
theorem fault_of_unsealValue
    {key stored : String}
    {decapsulator : Kem.Decapsulator}
    {failure : Failure}
    (fails : unsealValue key stored decapsulator = .error failure) :
    (Envelope.isSealed stored = false ∧ failure = .valueNotSealed key) ∨
      ValueFault key failure := by
  rcases denotes_or_fault stored with ⟨capsule, blob, denotes⟩ | ⟨fault, atFault, reported⟩
  · rw [unsealValue_of_denotes denotes] at fails
    cases decapsulated : decapsulator.decapsulate capsule with
    | error refusal =>
        rw [decapsulated] at fails
        cases fails
        exact .inr (.decapsulation _)
    | ok shared =>
        rw [decapsulated] at fails
        cases decrypted : Cipher.decrypt shared blob with
        | error refusal =>
            rw [Except.mapError, Except.bind, decrypted] at fails
            cases fails
            exact .inr (.decryption _)
        | ok plaintext =>
            rw [Except.mapError, Except.bind, decrypted] at fails
            change textOf key plaintext = .error failure at fails
            unfold textOf at fails
            split at fails
            · contradiction
            · cases fails
              exact .inr (.decryption _)
  · rw [reported key decapsulator] at fails
    cases fails
    cases atFault with
    | notSealed bare => exact .inl ⟨bare, rfl⟩
    | undivided => exact .inr .undivided
    | capsule => exact .inr (.capsule _)
    | blob => exact .inr (.blob _)
    | capsuleSize => exact .inr (.decapsulation _)
    | shortBlob => exact .inr (.decryption _)

theorem valueFault_of_unsealValue
    {key stored : String}
    {decapsulator : Kem.Decapsulator}
    {failure : Failure}
    (isSealed : Envelope.isSealed stored = true)
    (fails : unsealValue key stored decapsulator = .error failure) :
    ValueFault key failure := by
  rcases fault_of_unsealValue fails with ⟨bare, _⟩ | fault
  · rw [isSealed] at bare
    contradiction
  · exact fault

end SealedEnv.Vault
