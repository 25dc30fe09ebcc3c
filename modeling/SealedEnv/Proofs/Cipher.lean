import SealedEnv.Cipher.Blob

/-!
Contract: a blob opens to the plaintext that it was encrypted from, and no other blob does.

Owns:
- the sizes of blocks, key streams and tags, so that no byte of a text stays without its key;
- the round trip of counter mode and of the whole blob;
- `CorrectFor`, what is asked of the cipher for one plaintext;
- `decrypt_accepts_encrypted`, which blobs are accepted and what is said of the others.

Does not own: that a blob cannot be made without the key.
-/

namespace SealedEnv.Cipher

/-! ## Sizes -/

theorem size_rounds
    {keys : List (Array UInt8)}
    (sized : ∀ key ∈ keys, key.size = 16)
    {block : Array UInt8}
    (blockSize : block.size = 16) :
    (rounds block keys).size = 16 := by
  induction keys generalizing block with
  | nil => exact blockSize
  | cons key rest inductionHypothesis =>
      have keySize := sized key (by simp)
      have restSized : ∀ other ∈ rest, other.size = 16 := by
        intro other member
        exact sized other (List.mem_cons_of_mem key member)
      cases rest with
      | nil => simp [rounds, addKey, substituteAndShift, keySize]
      | cons next others =>
          rw [rounds]
          · exact inductionHypothesis restSized (by simp [addKey, mixColumns, keySize])
          · simp

theorem length_wordBytes (word : UInt32) : (wordBytes word).length = 4 := rfl

theorem size_foldl_push (steps : List Nat) (words : Array UInt32) :
    (steps.foldl (fun words _ => words.push (nextWord words)) words).size =
      words.size + steps.length := by
  induction steps generalizing words with
  | nil => rfl
  | cons step rest inductionHypothesis =>
      rw [List.foldl_cons, inductionHypothesis, Array.size_push, List.length_cons]
      omega

theorem size_of_mem_roundKeys
    {key : Bytes}
    {roundKey : Array UInt8}
    (member : roundKey ∈ roundKeys key) :
    roundKey.size = 16 := by
  obtain ⟨round, inRange, rfl⟩ := List.mem_map.mp member
  have bound : round < 15 := List.mem_range.mp inRange
  have words := size_foldl_push (List.range 52) (keyWords key)
  have first : (keyWords key).size = 8 := by simp [keyWords]
  rw [first, List.length_range] at words
  rw [List.size_toArray, List.length_flatMap]
  simp only [length_wordBytes, List.map_const', List.sum_replicate_nat,
    Array.length_toList, Array.size_extract, words]
  omega

theorem length_ofKey (key : Bytes) :
    ∀ block : Bytes, block.length = 16 → (ofKey key block).length = 16 := by
  intro block blockLength
  unfold ofKey encryptBlock
  cases keys : roundKeys key with
  | nil => exact blockLength
  | cons first rest =>
      have sized : ∀ other ∈ first :: rest, other.size = 16 := by
        intro other member
        exact size_of_mem_roundKeys (keys ▸ member)
      have firstSize := sized first (by simp)
      have restSized : ∀ other ∈ rest, other.size = 16 := by
        intro other member
        exact sized other (List.mem_cons_of_mem first member)
      rw [Array.length_toList]
      exact size_rounds restSized (by simp [addKey, firstSize, blockLength])

variable {cipher : Bytes → Bytes}

theorem le_length_keystream
    (blocks : ∀ block, block.length = 16 → (cipher block).length = 16)
    {nonce : Bytes}
    (nonceSize : nonce.length = nonceLength)
    (length : Nat) :
    length ≤ (keystream cipher nonce length).length := by
  have counter : ∀ i, (cipher (counterBlock nonce (i + 2))).length = 16 := by
    intro i
    apply blocks
    rw [counterBlock, List.length_append, length_wordBytes, nonceSize, nonceLength]
  unfold keystream
  rw [List.length_flatMap]
  simp only [counter, List.map_const', List.sum_replicate_nat, List.length_range]
  unfold blockCount
  omega

theorem length_addKeystream
    (blocks : ∀ block, block.length = 16 → (cipher block).length = 16)
    {nonce : Bytes}
    (nonceSize : nonce.length = nonceLength)
    (text : Bytes) :
    (addKeystream cipher nonce text).length = text.length := by
  have enough := le_length_keystream blocks nonceSize text.length
  unfold addKeystream
  rw [List.length_zipWith]
  omega

theorem length_tag
    (blocks : ∀ block, block.length = 16 → (cipher block).length = 16)
    {nonce : Bytes}
    (nonceSize : nonce.length = nonceLength)
    (ciphertext : Bytes) :
    (tag cipher nonce ciphertext).length = tagLength := by
  have counter : (cipher (counterBlock nonce 1)).length = 16 := by
    apply blocks
    rw [counterBlock, List.length_append, length_wordBytes, nonceSize, nonceLength]
  simp [tag, elementBytes, counter, tagLength]

/-! ## Round trips -/

/-- A stream that is long enough cancels itself. -/
theorem zipWith_xor_zipWith_xor
    {text stream : Bytes}
    (enough : text.length ≤ stream.length) :
    List.zipWith (· ^^^ ·) (List.zipWith (· ^^^ ·) text stream) stream = text := by
  induction text generalizing stream with
  | nil => rfl
  | cons byte rest inductionHypothesis =>
      cases stream with
      | nil => simp at enough
      | cons key more =>
          have restEnough : rest.length ≤ more.length := by simpa using enough
          simp only [List.zipWith_cons_cons, inductionHypothesis restEnough]
          rw [UInt8.xor_assoc, UInt8.xor_self, UInt8.xor_zero]

theorem addKeystream_addKeystream
    (blocks : ∀ block, block.length = 16 → (cipher block).length = 16)
    {nonce : Bytes}
    (nonceSize : nonce.length = nonceLength)
    (text : Bytes) :
    addKeystream cipher nonce (addKeystream cipher nonce text) = text := by
  have enough := le_length_keystream blocks nonceSize text.length
  have sameStream : keystream cipher nonce (addKeystream cipher nonce text).length =
      keystream cipher nonce text.length := by
    rw [length_addKeystream blocks nonceSize]
  conv => lhs; rw [addKeystream, sameStream]
  exact zipWith_xor_zipWith_xor enough

/-- What a key seals it opens. -/
theorem openWith?_sealWith
    (key : Bytes)
    {nonce : Bytes}
    (nonceSize : nonce.length = nonceLength)
    {plaintext : Bytes}
    (fits : plaintext.length ≤ plaintextLimit) :
    openWith? key nonce (sealWith key nonce plaintext) = some plaintext := by
  have textSize := length_addKeystream (length_ofKey key) nonceSize plaintext
  have tagSize := length_tag (length_ofKey key) nonceSize (addKeystream (ofKey key) nonce plaintext)
  unfold openWith? sealWith
  simp only [List.length_append, tagSize, Nat.add_sub_cancel, Bool.or_eq_true, decide_eq_true_eq]
  rw [if_neg (by omega), List.take_left, List.drop_left, if_pos rfl,
    addKeystream_addKeystream (length_ofKey key) nonceSize]

/-! ## The blobs that open -/

theorem length_sealWith
    (key : Bytes)
    {nonce : Bytes}
    (nonceSize : nonce.length = nonceLength)
    (plaintext : Bytes) :
    (sealWith key nonce plaintext).length = plaintext.length + tagLength := by
  unfold sealWith
  rw [List.length_append, length_addKeystream (length_ofKey key) nonceSize,
    length_tag (length_ofKey key) nonceSize]

/-- What opens is what the key seals: the key stream gives the ciphertext back, and its tag was
compared. -/
theorem openWith?_eq_some_iff
    (key : Bytes)
    {nonce : Bytes}
    (nonceSize : nonce.length = nonceLength)
    {body plaintext : Bytes} :
    openWith? key nonce body = some plaintext ↔
      plaintext.length ≤ plaintextLimit ∧ body = sealWith key nonce plaintext := by
  constructor
  · intro opened
    unfold openWith? at opened
    split at opened
    case isTrue => contradiction
    case isFalse sized =>
      simp only [Bool.or_eq_true, decide_eq_true_eq] at sized
      simp only [] at opened
      split at opened
      case isFalse => contradiction
      case isTrue sameTag =>
        cases opened
        have textSize : (addKeystream (ofKey key) nonce
            (body.take (body.length - tagLength))).length = body.length - tagLength := by
          rw [length_addKeystream (length_ofKey key) nonceSize, List.length_take]
          omega
        refine ⟨by omega, ?_⟩
        unfold sealWith
        simp only []
        rw [addKeystream_addKeystream (length_ofKey key) nonceSize, sameTag, List.take_append_drop]
  · rintro ⟨fits, rfl⟩
    exact openWith?_sealWith key nonceSize fits

section Keyed

variable {key : Bytes} (keySize : key.length = keyLength)

include keySize

/-- Encryption draws a nonce and nothing else, and puts it in front. -/
theorem encrypt_eq_ok_iff
    {plaintext blob : Bytes}
    {tape rest : Tape} :
    encrypt key plaintext tape = (.ok blob, rest) ↔
      ∃ nonce, nonce.length = nonceLength ∧ tape = nonce ++ rest ∧
        plaintext.length ≤ plaintextLimit ∧ blob = nonce ++ sealWith key nonce plaintext := by
  unfold encrypt Tape.draw?
  rw [if_neg (not_not_intro keySize)]
  constructor
  · intro encrypted
    by_cases enough : nonceLength ≤ tape.length
    · rw [if_pos enough] at encrypted
      by_cases long : plaintextLimit < plaintext.length
      · simp only [if_pos long] at encrypted
        cases encrypted
      · simp only [if_neg long] at encrypted
        cases encrypted
        exact ⟨_, List.length_take_of_le enough, (List.take_append_drop nonceLength tape).symm,
          Nat.le_of_not_lt long, rfl⟩
    · rw [if_neg enough] at encrypted
      cases encrypted
  · rintro ⟨nonce, nonceSize, rfl, fits, rfl⟩
    have enough : nonceLength ≤ (nonce ++ rest).length := by
      rw [List.length_append]
      omega
    rw [if_pos enough, List.take_left' nonceSize, List.drop_left' nonceSize]
    simp only [if_neg (Nat.not_lt.mpr fits)]

/-- Decryption divides a blob behind the nonce, so it accepts the blobs that have this form. -/
theorem decrypt_eq_ok_iff {plaintext blob : Bytes} :
    decrypt key blob = .ok plaintext ↔
      ∃ nonce, nonce.length = nonceLength ∧ plaintext.length ≤ plaintextLimit ∧
        blob = nonce ++ sealWith key nonce plaintext := by
  unfold decrypt
  rw [if_neg (not_not_intro keySize)]
  constructor
  · intro decrypted
    split at decrypted
    case isTrue => contradiction
    case isFalse enough =>
      split at decrypted
      case h_2 => contradiction
      case h_1 found opened =>
        cases decrypted
        have nonceSize : (blob.take nonceLength).length = nonceLength :=
          List.length_take_of_le (Nat.le_of_not_lt enough)
        obtain ⟨fits, isBody⟩ := (openWith?_eq_some_iff key nonceSize).mp opened
        exact ⟨_, nonceSize, fits, by rw [← isBody, List.take_append_drop]⟩
  · rintro ⟨nonce, nonceSize, fits, rfl⟩
    have enough : ¬(nonce ++ sealWith key nonce plaintext).length < nonceLength := by
      rw [List.length_append]
      omega
    rw [if_neg enough, List.take_left' nonceSize, List.drop_left' nonceSize,
      openWith?_sealWith key nonceSize fits]

/-- Under one nonce two blobs of one plaintext are the same. -/
theorem eq_of_decrypt
    {left right plaintext : Bytes}
    (sameNonce : left.take nonceLength = right.take nonceLength)
    (leftOpens : decrypt key left = .ok plaintext)
    (rightOpens : decrypt key right = .ok plaintext) :
    left = right := by
  obtain ⟨nonce, nonceSize, -, rfl⟩ := (decrypt_eq_ok_iff keySize).mp leftOpens
  obtain ⟨other, otherSize, -, rfl⟩ := (decrypt_eq_ok_iff keySize).mp rightOpens
  rw [List.take_left' nonceSize, List.take_left' otherSize] at sameNonce
  rw [sameNonce]

theorem decrypt_of_short
    {blob : Bytes}
    (short : blob.length < nonceLength) :
    decrypt key blob = .error (.blobTooShort blob.length) := by
  unfold decrypt
  rw [if_neg (not_not_intro keySize), if_pos short]

/-- A blob that holds a nonce is refused for one reason. -/
theorem refusal_of_decrypt
    {blob : Bytes}
    {refusal : Refusal}
    (enough : nonceLength ≤ blob.length)
    (refused : decrypt key blob = .error refusal) :
    refusal = .authenticationFailed := by
  unfold decrypt at refused
  rw [if_neg (not_not_intro keySize), if_neg (Nat.not_lt.mpr enough)] at refused
  split at refused
  case h_1 => contradiction
  case h_2 =>
    cases refused
    rfl

/-- What encryption gives has its nonce in front, and is as long as its parts. -/
theorem shape_of_encrypt
    {plaintext blob : Bytes}
    {tape : Tape}
    (encrypted : (encrypt key plaintext tape).1 = .ok blob) :
    blob.take nonceLength = tape.take nonceLength ∧
      blob.length = nonceLength + plaintext.length + tagLength := by
  obtain ⟨nonce, nonceSize, isTape, -, isBlob⟩ :=
    (encrypt_eq_ok_iff keySize).mp (Prod.ext encrypted rfl)
  constructor
  · rw [isTape, isBlob, List.take_left' nonceSize, List.take_left' nonceSize]
  · rw [isBlob, List.length_append, length_sealWith key nonceSize, nonceSize, Nat.add_assoc]

/-- Encryption gives a blob on the nonce that it carries, if decryption accepts it. -/
theorem decrypt_eq_ok_iff_encrypt
    {blob plaintext : Bytes}
    {rest : Tape} :
    decrypt key blob = .ok plaintext ↔
      encrypt key plaintext (blob.take nonceLength ++ rest) = (.ok blob, rest) := by
  rw [decrypt_eq_ok_iff keySize, encrypt_eq_ok_iff keySize]
  constructor
  · rintro ⟨nonce, nonceSize, fits, rfl⟩
    exact ⟨nonce, nonceSize, by rw [List.take_left' nonceSize], fits, rfl⟩
  · rintro ⟨nonce, nonceSize, -, fits, isBlob⟩
    exact ⟨nonce, nonceSize, fits, isBlob⟩

theorem exists_encrypt
    {plaintext : Bytes}
    {tape : Tape}
    (fits : plaintext.length ≤ plaintextLimit)
    (enough : nonceLength ≤ tape.length) :
    ∃ blob, encrypt key plaintext tape = (.ok blob, tape.drop nonceLength) :=
  ⟨_, (encrypt_eq_ok_iff keySize).mpr ⟨tape.take nonceLength, List.length_take_of_le enough,
    (List.take_append_drop nonceLength tape).symm, fits, rfl⟩⟩

end Keyed

/-- A blob is decrypted to the plaintext that it was encrypted from. -/
theorem decrypt_of_encrypt
    {key plaintext blob : Bytes}
    {tape : Tape}
    (encrypted : (encrypt key plaintext tape).1 = .ok blob) :
    decrypt key blob = .ok plaintext := by
  by_cases keySize : key.length = keyLength
  case pos =>
    obtain ⟨nonce, nonceSize, -, fits, isBlob⟩ :=
      (encrypt_eq_ok_iff keySize).mp (Prod.ext encrypted rfl)
    exact (decrypt_eq_ok_iff keySize).mpr ⟨nonce, nonceSize, fits, isBlob⟩
  case neg =>
    rw [encrypt, if_pos keySize] at encrypted
    contradiction

/-- Holds of a plaintext for which the cipher is correct: under every key and nonce it is encrypted,
and what comes of that is decrypted to it. -/
def CorrectFor (plaintext : Bytes) : Prop :=
  ∀ key nonce : Bytes, key.length = keyLength → nonce.length = nonceLength →
    ∃ blob, (encrypt key plaintext nonce).1 = .ok blob ∧ decrypt key blob = .ok plaintext

/-- The cipher is correct for the plaintexts that it takes at all. -/
theorem correctFor_iff {plaintext : Bytes} :
    CorrectFor plaintext ↔ plaintext.length ≤ plaintextLimit := by
  constructor
  · intro correct
    have keySize : (List.replicate keyLength (0 : UInt8)).length = keyLength :=
      List.length_replicate
    obtain ⟨blob, encrypted, -⟩ :=
      correct _ (List.replicate nonceLength 0) keySize List.length_replicate
    obtain ⟨_, -, -, fits, -⟩ := (encrypt_eq_ok_iff keySize).mp (Prod.ext encrypted rfl)
    exact fits
  · intro fits key nonce keySize nonceSize
    obtain ⟨blob, encrypted⟩ := exists_encrypt keySize fits (Nat.le_of_eq nonceSize.symm)
    have isBlob : (encrypt key plaintext nonce).1 = .ok blob := congrArg Prod.fst encrypted
    exact ⟨blob, isBlob, decrypt_of_encrypt isBlob⟩

/-- Under a key of the right size a blob is decrypted to a plaintext exactly if the plaintext is
encrypted to that blob with the first bytes of the blob drawn for the nonce.  Encryption of a
plaintext within the limit succeeds on every tape that holds a nonce; what it gives has the nonce in
front and the tag behind, is decrypted again, and is the only blob of its nonce that is decrypted to
the plaintext.  A blob that is refused is too short to hold a nonce, and is said to be, or fails to
authenticate.  Under any other key nothing happens but that its size is refused. -/
theorem decrypt_accepts_encrypted (key : Bytes) :
    (key.length = keyLength →
      (∀ blob plaintext rest, decrypt key blob = .ok plaintext ↔
        encrypt key plaintext (blob.take nonceLength ++ rest) = (.ok blob, rest)) ∧
      (∀ plaintext tape, plaintext.length ≤ plaintextLimit → nonceLength ≤ tape.length →
        ∃ blob, encrypt key plaintext tape = (.ok blob, tape.drop nonceLength)) ∧
      (∀ plaintext tape blob, (encrypt key plaintext tape).1 = .ok blob →
        blob.take nonceLength = tape.take nonceLength ∧
          blob.length = 12 + plaintext.length + 16 ∧ decrypt key blob = .ok plaintext) ∧
      (∀ left right plaintext, left.take nonceLength = right.take nonceLength →
        decrypt key left = .ok plaintext → decrypt key right = .ok plaintext → left = right) ∧
      (∀ blob, blob.length < nonceLength →
        decrypt key blob = .error (.blobTooShort blob.length)) ∧
      ∀ blob refusal, nonceLength ≤ blob.length → decrypt key blob = .error refusal →
        refusal = .authenticationFailed) ∧
    (key.length ≠ keyLength →
      (∀ plaintext tape,
        encrypt key plaintext tape = (.error (.invalidKeySize key.length), tape)) ∧
      ∀ blob, decrypt key blob = .error (.invalidKeySize key.length)) := by
  constructor
  · intro keySize
    refine ⟨?_, ?_, ?_, ?_, ?_, ?_⟩
    · intro blob plaintext rest
      exact decrypt_eq_ok_iff_encrypt keySize
    · intro plaintext tape fits enough
      exact exists_encrypt keySize fits enough
    · intro plaintext tape blob encrypted
      obtain ⟨front, size⟩ := shape_of_encrypt keySize encrypted
      exact ⟨front, size, decrypt_of_encrypt encrypted⟩
    · intro left right plaintext sameNonce leftOpens rightOpens
      exact eq_of_decrypt keySize sameNonce leftOpens rightOpens
    · intro blob short
      exact decrypt_of_short keySize short
    · intro blob refusal enough refused
      exact refusal_of_decrypt keySize enough refused
  · intro otherSize
    constructor
    · intro plaintext tape
      exact if_pos otherSize
    · intro blob
      exact if_pos otherSize

/-- The tag of no text at all, under a key and a nonce of zeros. -/
theorem decrypt_accepts_encrypted_empty :
    (List.replicate 32 (0 : UInt8)).length = keyLength ∧
      decrypt (List.replicate 32 0)
          (List.replicate 12 0 ++
            [0x53, 0x0f, 0x8a, 0xfb, 0xc7, 0x45, 0x36, 0xb9,
              0xa9, 0x63, 0xb4, 0xf1, 0xc4, 0xcb, 0x73, 0x8b]) = .ok [] := by
  have keySize : (List.replicate 32 (0 : UInt8)).length = keyLength := List.length_replicate
  have sealed : sealWith (List.replicate 32 0) (List.replicate 12 0) [] =
      [0x53, 0x0f, 0x8a, 0xfb, 0xc7, 0x45, 0x36, 0xb9,
        0xa9, 0x63, 0xb4, 0xf1, 0xc4, 0xcb, 0x73, 0x8b] := by
    decide +kernel
  refine ⟨keySize, ?_⟩
  rw [((decrypt_accepts_encrypted (List.replicate 32 0)).1 keySize).1 _ _ [],
    encrypt_eq_ok_iff keySize, ← sealed]
  exact ⟨List.replicate 12 0, List.length_replicate, rfl, Nat.zero_le plaintextLimit, rfl⟩

end SealedEnv.Cipher
