import SealedEnv.EnvFile.Storage
import SealedEnv.Proofs.Store.AtomicWrite

/-!
Contract: setting a key in an env file, one step at a time.

Owns:
- `Setting.advance`, the steps of one call: reading the file, making directories, making the passing
  file, and each of the stages that lead to the move;
- what each of these steps makes of the store;
- `advanceAlone_eq_setKey`, that all of them in a row are `setKey`.

Does not own: what happens between the steps.
-/

namespace SealedEnv.EnvFile

/-- What a call is to set, and where. -/
structure Setting where
  path : Path
  key : String
  value : String

/-- How far a call has come.  What it read stays with it. -/
inductive Progress where
  | start
  | read (text : String)
  /-- The directories that lead to the file are there. -/
  | housed (text : String)
  /-- The passing file is there, and some stages are left. -/
  | staged (text : String) (passing : Place) (left : List AtomicWrite.Stage)
  | done
  | failed (cause : IoError)
deriving DecidableEq

namespace Setting

/-- What a call makes of a text. -/
def rewritten (setting : Setting) (text : String) : String :=
  update text setting.key setting.value

/-- The replacement of the file by what the call makes of the text that it read. -/
def plan (setting : Setting) (text : String) (passing : Place) : AtomicWrite where
  passing
  target := setting.path
  mode := fileMode
  data := Utf8.encode (setting.rewritten text)

def makeRoom (setting : Setting) : Action IoError Unit :=
  match setting.path.parent? with
  | some parent => makeDirectories parent.ancestors
  | none => pure ()

/-- Makes the passing file under a fresh name. -/
def create (setting : Setting) (text : String) : Action IoError Place := do
  let world ← get
  let path := AtomicWrite.passingPath world.names world.store world.here setting.path
  let passing ← Action.withCause (IoError.at · path) <| Action.ask fun store here =>
    AtomicWrite.passingPlace world.names store here setting.path
  Action.withCause (IoError.at · path) ((setting.plan text passing).perform [.create])
  return passing

/-- Takes the passing file away, if it is not stuck, and fails. -/
def giveUp (passing : Place) (cause : IoError) : Action IoError Unit := do
  Action.discard passing
  throw cause

def performStage
    (setting : Setting)
    (text : String)
    (passing : Place)
    (stage : AtomicWrite.Stage) :
    Action IoError Unit :=
  tryCatch
    (Action.change fun store here => stage.step (setting.plan text passing) store here)
    (giveUp passing)

/-- Where a call is after an action, and the world that the action left. -/
def resume {value : Type} (next : value → Progress) :
    Except IoError value × World → Progress × World
  | (.ok result, after) => (next result, after)
  | (.error cause, after) => (.failed cause, after)

/-- The next step of a call.  A call that is done or has failed takes none. -/
def advance (setting : Setting) : Progress → World → Progress × World
  | .start, world => resume .read (storedText setting.path world)
  | .read text, world => resume (fun _ => .housed text) (setting.makeRoom world)
  | .housed text, world =>
    resume (fun passing => .staged text passing AtomicWrite.Stage.all.tail)
      (setting.create text world)
  | .staged text passing (stage :: left), world =>
    resume (fun _ => if left.isEmpty then .done else .staged text passing left)
      (setting.performStage text passing stage world)
  | .staged text passing [], world => (.staged text passing [], world)
  | .done, world => (.done, world)
  | .failed cause, world => (.failed cause, world)

/-! ## What single steps do -/

section Steps

variable {setting : Setting} {world after : World}

theorem makeRoom_grows
    {result : Except IoError Unit}
    (makes : setting.makeRoom world = (result, after)) :
    OnlyGrew world after := by
  unfold makeRoom at makes
  cases parent : setting.path.parent? with
  | none =>
      rw [parent] at makes
      cases makes
      exact OnlyGrew.refl world
  | some folder =>
      rw [parent] at makes
      exact makeDirectories_grows makes

theorem create_eq_ok
    {text : String}
    {passing : Place}
    (creates : setting.create text world = (.ok passing, after)) :
    after.here = world.here ∧
      AtomicWrite.passingPlace world.names world.store world.here setting.path = .ok passing ∧
      AtomicWrite.Stage.create.step (setting.plan text passing) world.store world.here =
        .ok after.store := by
  unfold create at creates
  obtain ⟨_, _, got, creates⟩ := Action.bind_eq_ok_iff.mp creates
  cases got
  obtain ⟨found, _, asked, creates⟩ := Action.bind_eq_ok_iff.mp creates
  rw [Action.withCause_eq_ok_iff, Action.ask_eq_ok_iff] at asked
  obtain ⟨fresh, rfl⟩ := asked
  obtain ⟨_, _, performed, done⟩ := Action.bind_eq_ok_iff.mp creates
  cases done
  rw [Action.withCause_eq_ok_iff] at performed
  obtain ⟨_, _, changed, done⟩ := Action.bind_eq_ok_iff.mp performed
  cases done
  obtain ⟨_, allowed, rfl⟩ := Action.change_eq_ok changed
  exact ⟨rfl, fresh, allowed⟩

/-- A passing file that is not made leaves no trace. -/
theorem create_eq_error
    {text : String}
    {cause : IoError}
    (fails : setting.create text world = (.error cause, after)) :
    after.here = world.here ∧ after.store = world.store := by
  unfold create at fails
  rw [Action.bind_of_ok (Action.get_apply world)] at fails
  rcases Action.bind_eq_error fails with refused | ⟨passing, between, asked, fails⟩
  · obtain ⟨fault, asked, -⟩ := Action.withCause_eq_error refused
    have same : world = after := congrArg Prod.snd asked
    rw [same]
    exact ⟨rfl, rfl⟩
  · rw [Action.withCause_eq_ok_iff, Action.ask_eq_ok_iff] at asked
    obtain ⟨-, rfl⟩ := asked
    rcases Action.bind_eq_error fails with uncreated | ⟨_, _, _, done⟩
    · obtain ⟨fault, performs, -⟩ := Action.withCause_eq_error uncreated
      rw [AtomicWrite.perform_create_eq_error performs]
      exact ⟨rfl, rfl⟩
    · cases done

theorem performStage_eq_ok
    {text : String}
    {passing : Place}
    {stage : AtomicWrite.Stage}
    {result : Unit}
    (performs : setting.performStage text passing stage world = (.ok result, after)) :
    after.here = world.here ∧
      stage.step (setting.plan text passing) world.store world.here = .ok after.store := by
  rcases Action.tryCatch_eq_ok performs with changed | ⟨cause, between, _, gaveUp⟩
  · obtain ⟨_, allowed, rfl⟩ := Action.change_eq_ok changed
    exact ⟨rfl, allowed⟩
  · obtain ⟨_, _, _, thrown⟩ := Action.bind_eq_ok_iff.mp gaveUp
    cases thrown

/-- A stage that fails takes the passing file with it if that is not stuck, and nothing else. -/
theorem performStage_eq_error
    {text : String}
    {passing : Place}
    {stage : AtomicWrite.Stage}
    {cause : IoError}
    (fails : setting.performStage text passing stage world = (.error cause, after)) :
    after.here = world.here ∧ after.store = world.store.release world.stuck passing := by
  unfold performStage at fails
  obtain ⟨fault, between, refused, gaveUp⟩ := Action.tryCatch_eq_error fails
  cases gaveUp
  rw [Action.change_eq_error refused]
  exact ⟨rfl, rfl⟩

end Steps

/-! ## All steps in a row -/

/-- Several steps of a call that nothing comes between. -/
def advanceAlone (setting : Setting) : Nat → Progress × World → Progress × World
  | 0, state => state
  | steps + 1, state => setting.advanceAlone steps (setting.advance state.1 state.2)

variable (setting : Setting)

theorem advanceAlone_failed (steps : Nat) (cause : IoError) (world : World) :
    setting.advanceAlone steps (.failed cause, world) = (.failed cause, world) := by
  induction steps with
  | zero => rfl
  | succ steps inductionHypothesis => exact inductionHypothesis

/-- After a step that may fail, the others are taken only if it did not. -/
theorem advanceAlone_resume
    {value : Type}
    (steps : Nat)
    (next : value → Progress)
    (action : Action IoError value)
    (last : value → Action IoError Unit)
    (continues : ∀ result after, setting.advanceAlone steps (next result, after) =
      resume (fun _ => .done) (last result after))
    (world : World) :
    setting.advanceAlone steps (resume next (action world)) =
      resume (fun _ => .done) ((action >>= last) world) := by
  rcases outcome : action world with ⟨fault | result, after⟩
  · rw [Action.bind_of_error outcome]
    exact setting.advanceAlone_failed steps fault after
  · rw [Action.bind_of_ok outcome]
    exact continues result after

/-- The stages one by one, each with its own handler, are the stages with one handler for all. -/
theorem advanceAlone_staged
    (text : String)
    (passing : Place)
    {left : List AtomicWrite.Stage}
    (filled : left ≠ [])
    (world : World) :
    setting.advanceAlone left.length (.staged text passing left, world) =
      resume (fun _ => .done)
        (tryCatch ((setting.plan text passing).perform left) (giveUp passing) world) := by
  induction left generalizing world with
  | nil => contradiction
  | cons stage left inductionHypothesis =>
      rw [List.length_cons, advanceAlone, advance, AtomicWrite.perform, performStage]
      rcases outcome : Action.change
        (fun store here => stage.step (setting.plan text passing) store here) world with
        ⟨fault | done, after⟩
      · rw [Action.tryCatch_of_error outcome,
          Action.tryCatch_of_error (Action.bind_of_error outcome _)]
        exact setting.advanceAlone_failed left.length fault _
      · rw [Action.tryCatch_of_ok outcome, Action.tryCatch_bind_of_ok outcome]
        cases left with
        | nil => rfl
        | cons next rest => exact inductionHypothesis (List.cons_ne_nil next rest) after

theorem writeAtomicWithin_eq_bind (data : Bytes) (mode : Nat) :
    writeAtomicWithin setting.path data mode =
      setting.makeRoom >>= fun _ => writeAtomic setting.path data mode := by
  unfold writeAtomicWithin makeRoom
  cases setting.path.parent? <;> rfl

theorem writeAtomic_eq_bind (text : String) :
    writeAtomic setting.path (Utf8.encode (update text setting.key setting.value)) fileMode =
      setting.create text >>= fun passing =>
        tryCatch ((setting.plan text passing).perform AtomicWrite.Stage.all.tail)
          (giveUp passing) := by
  unfold writeAtomic create
  simp only [bind_assoc, pure_bind]
  rfl

/-- The steps of a call are those of `setKey`. -/
theorem advanceAlone_eq_setKey (world : World) :
    setting.advanceAlone 7 (.start, world) =
      resume (fun _ => .done) (setKey setting.path setting.key setting.value world) := by
  have filled : AtomicWrite.Stage.all.tail ≠ [] := by decide
  unfold setKey
  rw [advanceAlone, advance]
  apply advanceAlone_resume
  intro text afterRead
  rw [advanceAlone, advance, writeAtomicWithin_eq_bind]
  apply advanceAlone_resume
  intro _ afterRoom
  rw [advanceAlone, advance, writeAtomic_eq_bind]
  apply advanceAlone_resume
  intro passing afterCreate
  exact setting.advanceAlone_staged text passing filled afterCreate

end Setting

end SealedEnv.EnvFile
