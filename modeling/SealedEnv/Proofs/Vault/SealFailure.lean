import SealedEnv.Proofs.Store.Ancestors
import SealedEnv.Proofs.Vault.Unseal
import SealedEnv.Vault.Seal

/-!
Contract: what a seal asks for and draws, and what is left of one that fails.

Owns:
- what setting a key leaves alone;
- `Admits`, what must be in order before a plaintext is asked for;
- `SealEnd`, the ways in which a seal ends, and the law of all of them.

Does not own: what a seal that succeeds has stored.
-/

namespace SealedEnv

/-! ## Setting a key -/

theorem OnlyFiles.setKey (path : Path) (key value : String) :
    Action.Keeps OnlyFiles (EnvFile.setKey path key value) := by
  have reads : Action.Keeps OnlyFiles (EnvFile.storedText path) :=
    Action.Keeps.of_unchanged refl (EnvFile.storedText_unchanged path)
  apply reads.bind trans
  intro text
  exact writeAtomicWithin path _ _

namespace Vault

/-! ## Before the plaintext -/

/-- Holds if a key may be stored and the public key file is in order. -/
def Admits (world : World) (publicKeyPath : Path) (key : String) : Prop :=
  isStoredKey key = true ∧
    ∃ encapsulator, Loads Kem.Encapsulator.ofBytes world publicKeyPath encapsulator

/-! ## Ends -/

/-- The world in which a value is stored: the input was read, and what is left of the tape. -/
def afterDrawing (world : World) (tape : Tape) : World :=
  { world with inputReads := world.inputReads + 1, tape }

/-- The ways in which a seal ends. -/
inductive SealEnd (publicKeyPath out : Path) (key : String) (world : World) :
    Except Failure String → World → Prop where
  | refused
      (failure : Failure)
      (refuses : ¬Admits world publicKeyPath key) :
      SealEnd publicKeyPath out key world (.error failure) world
  | unread
      (admits : Admits world publicKeyPath key)
      {cause : IoError}
      (input : world.input = .error cause) :
      SealEnd publicKeyPath out key world (.error (.plaintextUnreadable cause))
        (afterDrawing world world.tape)
  | unsealed
      (storedKey : isStoredKey key = true)
      {encapsulator : Kem.Encapsulator}
      (loads : Loads Kem.Encapsulator.ofBytes world publicKeyPath encapsulator)
      {plaintext : Bytes}
      (input : world.input = .ok plaintext)
      {failure : Failure}
      {rest : Tape}
      (fails : sealValue encapsulator plaintext world.tape = (.error failure, rest)) :
      SealEnd publicKeyPath out key world (.error failure) (afterDrawing world rest)
  | unwritten
      (storedKey : isStoredKey key = true)
      {encapsulator : Kem.Encapsulator}
      (loads : Loads Kem.Encapsulator.ofBytes world publicKeyPath encapsulator)
      {plaintext : Bytes}
      (input : world.input = .ok plaintext)
      {value : String}
      {rest : Tape}
      (sealing : sealValue encapsulator plaintext world.tape = (.ok value, rest))
      {cause : IoError}
      {after : World}
      (fails : EnvFile.setKey out key value (afterDrawing world rest) = (.error cause, after)) :
      SealEnd publicKeyPath out key world (.error (.envFileUpdateFailed out.display cause)) after
  | written
      (storedKey : isStoredKey key = true)
      {encapsulator : Kem.Encapsulator}
      (loads : Loads Kem.Encapsulator.ofBytes world publicKeyPath encapsulator)
      {plaintext : Bytes}
      (input : world.input = .ok plaintext)
      {value : String}
      {rest : Tape}
      (sealing : sealValue encapsulator plaintext world.tape = (.ok value, rest))
      {after : World}
      (sets : EnvFile.setKey out key value (afterDrawing world rest) = (.ok (), after)) :
      SealEnd publicKeyPath out key world (.ok s!"Wrote {key} to {out.display}") after

/-- A seal that is not admitted fails before anything is asked for. -/
theorem sealInput_of_not_admits
    {publicKeyPath : Path}
    {key : String}
    {world : World}
    (refuses : ¬Admits world publicKeyPath key)
    (out : Path) :
    ∃ failure, sealInput publicKeyPath out key world = (.error failure, world) := by
  unfold sealInput
  by_cases storedKey : isStoredKey key = true
  · rw [if_neg (by simp [storedKey])]
    have unchanged := loadPublicKey_unchanged publicKeyPath world
    rcases loaded : loadPublicKey publicKeyPath world with ⟨failure | encapsulator, between⟩
    · rw [loaded] at unchanged
      cases unchanged
      exact ⟨failure, Action.bind_of_error loaded _⟩
    · obtain ⟨loads, -⟩ := loadPublicKey_eq_ok_iff.mp loaded
      exact absurd ⟨storedKey, encapsulator, loads⟩ refuses
  · rw [if_pos (by simp [storedKey])]
    exact ⟨_, rfl⟩

/-- A seal that is admitted asks for the plaintext next. -/
theorem sealInput_of_loads
    {publicKeyPath : Path}
    {key : String}
    {world : World}
    {encapsulator : Kem.Encapsulator}
    (storedKey : isStoredKey key = true)
    (loads : Loads Kem.Encapsulator.ofBytes world publicKeyPath encapsulator)
    (out : Path) :
    sealInput publicKeyPath out key world =
      (do
        let plaintext ← Action.withCause Failure.plaintextUnreadable Action.readInput
        let value ← Action.draw (sealValue encapsulator plaintext)
        Action.withCause (Failure.envFileUpdateFailed out.display) (EnvFile.setKey out key value)
        return s!"Wrote {key} to {out.display}") world := by
  unfold sealInput
  rw [if_neg (by simp [storedKey])]
  exact Action.bind_of_ok (loadPublicKey_eq_ok_iff.mpr ⟨loads, rfl⟩) _

theorem readInput_apply (world : World) :
    Action.readInput world = (world.input, afterDrawing world world.tape) := rfl

theorem draw_afterDrawing
    {value : Type}
    (reader : Tape → Except Failure value × Tape)
    (world : World) :
    Action.draw reader (afterDrawing world world.tape) =
      ((reader world.tape).1, afterDrawing world (reader world.tape).2) := rfl

theorem sealEnd_of_sealInput
    {publicKeyPath out : Path}
    {key : String}
    {world after : World}
    {result : Except Failure String}
    (seals : sealInput publicKeyPath out key world = (result, after)) :
    SealEnd publicKeyPath out key world result after := by
  by_cases admits : Admits world publicKeyPath key
  · obtain ⟨storedKey, encapsulator, loads⟩ := admits
    rw [sealInput_of_loads storedKey loads] at seals
    have asked := readInput_apply world
    cases input : world.input with
    | error cause =>
        rw [input] at asked
        rw [Action.bind_of_error (Action.withCause_of_error asked)] at seals
        cases seals
        exact .unread ⟨storedKey, encapsulator, loads⟩ input
    | ok plaintext =>
        rw [input] at asked
        rw [Action.bind_of_ok (Action.withCause_eq_ok_iff.mpr asked)] at seals
        have drawn := draw_afterDrawing (sealValue encapsulator plaintext) world
        rcases sealing : sealValue encapsulator plaintext world.tape with ⟨failure | value, rest⟩
        · rw [sealing] at drawn
          rw [Action.bind_of_error drawn] at seals
          cases seals
          exact .unsealed storedKey loads input sealing
        · rw [sealing] at drawn
          rw [Action.bind_of_ok drawn] at seals
          rcases sets : EnvFile.setKey out key value (afterDrawing world rest) with
            ⟨cause | done, last⟩
          · rw [Action.bind_of_error (Action.withCause_of_error sets)] at seals
            cases seals
            exact .unwritten storedKey loads input sealing sets
          · rw [Action.bind_of_ok (Action.withCause_eq_ok_iff.mpr sets)] at seals
            cases seals
            exact .written storedKey loads input sealing sets
  · obtain ⟨failure, refused⟩ := sealInput_of_not_admits admits out
    cases refused.symm.trans seals
    exact .refused failure admits

/-! ## Every end -/

section SealEnd

variable {publicKeyPath out : Path} {key : String} {world after : World}
  {result : Except Failure String}

theorem inputReads_of_setKey
    {value : String}
    {rest : Tape}
    {outcome : Except IoError Unit}
    (sets : EnvFile.setKey out key value (afterDrawing world rest) = (outcome, after)) :
    after.inputReads = world.inputReads + 1 := by
  have frame : OnlyFiles (afterDrawing world rest) after :=
    (OnlyFiles.setKey out key value).of_eq sets
  rw [frame]
  rfl

/-- A seal that is admitted asks for its plaintext once. -/
theorem SealEnd.inputReads
    (ends : SealEnd publicKeyPath out key world result after)
    (admits : Admits world publicKeyPath key) :
    after.inputReads = world.inputReads + 1 := by
  cases ends with
  | refused failure refuses => exact absurd admits refuses
  | unread _ input => rfl
  | unsealed storedKey loads input fails => rfl
  | unwritten storedKey loads input sealing fails => exact inputReads_of_setKey fails
  | written storedKey loads input sealing sets => exact inputReads_of_setKey sets

end SealEnd

/-! ## A directory that cannot be made -/

namespace Refused

/-- A world with the public key of the seed of zeros in `p`, in which one directory can be made. -/
def start : World :=
  { (default : World) with
    store := Store.empty.insert [[112]] (.file 0o644
      (Utf8.encode (keyFileText (Kem.KeyPair.ofSeed Zeros.seed).publicKey)))
    tape := List.replicate 44 0
    refusals := [none, none, some .noSpace] }

/-- The path `n/m/e`, neither of whose directories is there. -/
def out : Path := [110, 47, 109, 47, 101]

theorem loads : Loads Kem.Encapsulator.ofBytes start [112]
    (Kem.expandSeed Zeros.seed).encapsulator := by
  have located : start.store.locate [] [112] true = .ok (.present [[112]] (.file 0o644
      (Utf8.encode (keyFileText (Kem.KeyPair.ofSeed Zeros.seed).publicKey)))) := rfl
  have reads := Store.readText_of_locate located
  rw [Utf8.decode?_encode] at reads
  exact loads_of_readText reads (Kem.ofBytes_ofSeed _)

end Refused

end Vault

end SealedEnv
