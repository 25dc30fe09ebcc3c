import SealedEnv.Proofs.Store.Replacement
import SealedEnv.Proofs.Vault.Value
import SealedEnv.Vault.KeyPair

/-!
Contract: both halves of a key pair that was made are read back.

Owns:
- the two writes of `makeKeyPair`;
- the key files after it, sheltered from what is written to a third path.

Does not own: what becomes of a key pair that cannot be stored.
-/

namespace SealedEnv.Vault

/-- The line of a key file. -/
def keyFileText (key : Bytes) : String := Base64.encode key ++ "\n"

/-- Making a key pair is drawing it and writing two files. -/
theorem makeKeyPair_eq_ok
    {privatePath publicPath : Path}
    {start made : World}
    {summary : String}
    (makes : makeKeyPair privatePath publicPath start = (.ok summary, made)) :
    ∃ pair tape between, (Kem.generate start.tape).1 = .ok pair ∧
      writeAtomic privatePath (Utf8.encode (keyFileText pair.seed)) privateKeyMode
        { start with tape } = (.ok (), between) ∧
      writeAtomic publicPath (Utf8.encode (keyFileText pair.publicKey)) publicKeyMode between =
        (.ok (), made) := by
  unfold makeKeyPair at makes
  obtain ⟨pair, _, drawn, makes⟩ := Action.bind_eq_ok_iff.mp makes
  obtain ⟨generated, rfl⟩ := Action.draw_eq_ok drawn
  obtain ⟨_, between, first, makes⟩ := Action.bind_eq_ok_iff.mp makes
  obtain ⟨_, _, second, makes⟩ := Action.bind_eq_ok_iff.mp makes
  obtain ⟨_, _, got, makes⟩ := Action.bind_eq_ok_iff.mp makes
  cases got
  cases makes
  rw [Action.withCause_eq_ok_iff] at first
  rcases Action.tryCatch_eq_ok second with written | ⟨fault, _, _, handled⟩
  · rw [Action.withCause_eq_ok_iff] at written
    exact ⟨pair, _, between, mapError_eq_ok generated, first, written⟩
  · obtain ⟨_, _, _, thrown⟩ := Action.bind_eq_ok_iff.mp handled
    cases thrown

/-- After a key pair was made at paths that are apart from a third one, both halves are read back,
no write to the third path reaches them, and the third path reads as before. -/
theorem sheltered_of_makeKeyPair
    {privatePath publicPath out : Path}
    {start made : World}
    {summary : String}
    (apart : start.store.Apart start.here [privatePath, publicPath, out])
    (makes : makeKeyPair privatePath publicPath start = (.ok summary, made)) :
    ∃ pair, (Kem.generate start.tape).1 = .ok pair ∧
      made.here = start.here ∧
      made.store.Sheltered start.here privatePath (keyFileText pair.seed) out ∧
      made.store.Sheltered start.here publicPath (keyFileText pair.publicKey) out ∧
      made.store.OwnAhead start.here out ∧
      made.store.readText start.here out = start.store.readText start.here out := by
  obtain ⟨pair, tape, between, generated, first, second⟩ := makeKeyPair_eq_ok makes
  obtain ⟨firstHere, privatePlace, privateReplaced, firstReads⟩ :=
    Store.replaced_of_writeAtomic first
  obtain ⟨secondHere, publicPlace, publicReplaced, secondReads⟩ :=
    Store.replaced_of_writeAtomic second
  have betweenHere : between.here = start.here := firstHere
  rw [betweenHere] at publicReplaced secondReads secondHere
  have avoids := List.pairwise_cons.mp apart.pairwise
  obtain ⟨privatePublic, publicPrivate⟩ := avoids.1 publicPath (by simp)
  obtain ⟨privateOut, outPrivate⟩ := avoids.1 out (by simp)
  have privateOwn := apart.own privatePath (by simp)
  have privateOffPublic := privateReplaced.sheltered_own privateOwn privatePublic publicPrivate
  have privateOffOut := privateReplaced.sheltered_own privateOwn privateOut outPrivate
  -- The paths that are left are as far apart in the store between the writes.
  have apartBetween := privateReplaced.apart apart
  have avoidsBetween := List.pairwise_cons.mp apartBetween.pairwise
  obtain ⟨publicOut, outPublic⟩ := avoidsBetween.1 out (by simp)
  have publicOwn := apartBetween.own publicPath (by simp)
  have outClear := outPublic publicPlace publicReplaced.entryOf_eq
  refine ⟨pair, generated, secondHere, ?_, ?_, ?_, ?_⟩
  · exact publicReplaced.sheltered_other privateOffPublic privateOffOut outPublic
  · exact publicReplaced.sheltered_own publicOwn publicOut outPublic
  · exact (publicReplaced.apart apartBetween).own out (by simp)
  · rw [secondReads out outClear,
      firstReads out (outPrivate privatePlace privateReplaced.entryOf_eq)]

end SealedEnv.Vault
