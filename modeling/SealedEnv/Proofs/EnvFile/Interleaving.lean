import SealedEnv.Proofs.EnvFile.Setting
import SealedEnv.Proofs.EnvFile.Stepwise
import SealedEnv.Proofs.Store.PassingFile

/-!
Contract: a step of one call that sets a key of an env file, while another call is under way.

Owns:
- `Beside`, what every step of one call preserves for both: the file is read, and the passing files
  are ready and apart;
- what a step makes of the text in the file.

Does not own: runs of many steps, or what becomes of the map that the file denotes.
-/

namespace SealedEnv.EnvFile

open Store

/-! ## Steps of a call beside another one -/

/-- What other calls can tell of a call. -/
inductive Phase where
  | waiting
  /-- The call has read a text and has not replaced it. -/
  | holding (text : String)
  | returned
  | failed
deriving DecidableEq

namespace Progress

def phase : Progress → Phase
  | .start => .waiting
  | .read text | .housed text | .staged text _ _ => .holding text
  | .done => .returned
  | .failed _ => .failed

/-- The passing file of a call, while there is one. -/
def passing? : Progress → Option Place
  | .staged _ passing _ => some passing
  | _ => none

end Progress

/-- What a step makes of the phase of its call and of the text in the file. -/
inductive Moves (setting : Setting) : Phase → String → Phase → String → Prop where
  | stays (phase : Phase) (text : String) : Moves setting phase text phase text
  | reads (text : String) : Moves setting .waiting text (.holding text) text
  | writes (read text : String) :
    Moves setting (.holding read) text .returned (setting.rewritten read)
  | fails (phase : Phase) (text : String) : Moves setting phase text .failed text

/-- Holds if the passing file of a call, if there is one, is ready for the stages that are left. -/
def Setting.IsReady (setting : Setting) (progress : Progress) (world : World) : Prop :=
  ∀ read passing left, progress = .staged read passing left →
    AtomicWrite.Ready world.store world.here (setting.plan read passing) left

/-- Two calls that do not get into the way of each other at a file that is read. -/
structure Beside
    (setting other : Setting)
    (progress otherProgress : Progress)
    (world : World)
    (text : String) : Prop where
  samePath : other.path = setting.path
  reads : world.store.readText world.here setting.path = .ok text
  ready : setting.IsReady progress world
  otherReady : other.IsReady otherProgress world
  apart : ∀ passing ∈ progress.passing?, passing ∉ otherProgress.passing?

theorem Setting.isReady_of_passing?_eq_none
    {setting : Setting}
    {progress : Progress}
    {world : World}
    (noPassing : progress.passing? = none) :
    setting.IsReady progress world := by
  rintro read passing left rfl
  contradiction

theorem Setting.isReady_staged
    {setting : Setting}
    {read : String}
    {passing : Place}
    {left : List AtomicWrite.Stage}
    {world after : World}
    (sameHere : after.here = world.here)
    (ready : AtomicWrite.Ready after.store world.here (setting.plan read passing) left) :
    setting.IsReady (.staged read passing left) after := by
  intro _ _ _ same
  cases same
  rw [sameHere]
  exact ready

theorem Progress.eq_of_mem_passing?
    {read : String}
    {passing : Place}
    {left : List AtomicWrite.Stage} :
    ∀ place ∈ (Progress.staged read passing left).passing?, place = passing :=
  fun _ inside => (Option.some.inj inside).symm

namespace Beside

variable
  {setting other : Setting}
  {progress otherProgress next : Progress}
  {world after : World}
  {text : String}

theorem symm (beside : Beside setting other progress otherProgress world text) :
    Beside other setting otherProgress progress world text where
  samePath := beside.samePath.symm
  reads := by
    rw [beside.samePath]
    exact beside.reads
  ready := beside.otherReady
  otherReady := beside.ready
  apart := fun passing isOther isOwn => beside.apart passing isOwn isOther

/-- A step that touches neither the way to the file nor the passing file of the other call. -/
theorem of_grown
    (beside : Beside setting other progress otherProgress world text)
    (sameHere : after.here = world.here)
    {touched : List Place}
    (grown : Grown touched world.store after.store)
    (offTrail : ∀ place ∈ touched, place ∉ world.store.trailOf world.here setting.path true)
    (offPassing : ∀ place ∈ touched, place ∉ otherProgress.passing?)
    (ready : setting.IsReady next after)
    (apart : ∀ passing ∈ next.passing?, passing ∉ otherProgress.passing?) :
    Beside setting other next otherProgress after text := by
  refine ⟨beside.samePath, ?_, ready, ?_, apart⟩
  · rw [sameHere]
    exact readText_of_grown grown (fun place onTrail inside => offTrail place inside onTrail)
      beside.reads
  · rintro read passing left rfl
    rw [sameHere]
    refine (beside.otherReady read passing left rfl).of_grown grown ?_ ?_
    · intro place onTrail inside
      have onOwn : place ∈ world.store.trailOf world.here setting.path true := by
        rw [← beside.samePath]
        exact onTrail
      exact offTrail place inside onOwn
    · exact fun inside => offPassing passing inside rfl

/-- A step without a passing file that only adds directories. -/
theorem of_onlyGrew
    (beside : Beside setting other progress otherProgress world text)
    (grew : OnlyGrew world after)
    (noPassing : next.passing? = none) :
    Beside setting other next otherProgress after text :=
  beside.of_grown grew.1 grew.2 (by simp) (by simp)
    (Setting.isReady_of_passing?_eq_none noPassing) (by simp [noPassing])

/-- A step that touches nothing but the passing file of its call. -/
theorem of_grownPassing
    (beside : Beside setting other progress otherProgress world text)
    (sameHere : after.here = world.here)
    {passing : Place}
    (grown : Grown [passing] world.store after.store)
    (offTrail : passing ∉ world.store.trailOf world.here setting.path true)
    (offPassing : passing ∉ otherProgress.passing?)
    (ready : setting.IsReady next after)
    (isOwn : ∀ place ∈ next.passing?, place = passing) :
    Beside setting other next otherProgress after text := by
  apply beside.of_grown sameHere grown
  · intro place inside
    rw [List.mem_singleton.mp inside]
    exact offTrail
  · intro place inside
    rw [List.mem_singleton.mp inside]
    exact offPassing
  · exact ready
  · intro place inside
    rw [isOwn place inside]
    exact offPassing

/-- The passing file that one call makes is not that of the other one, which stands there. -/
theorem of_create
    {read : String}
    (beside : Beside setting other (.housed read) otherProgress world text)
    {passing : Place}
    (creates : setting.create read world = (.ok passing, after)) :
    Beside setting other (.staged read passing AtomicWrite.Stage.all.tail) otherProgress after
      text := by
  obtain ⟨sameHere, fresh, made⟩ := Setting.create_eq_ok creates
  obtain ⟨grown, vacant, off, ready⟩ := AtomicWrite.ready_create beside.reads made fresh
  have isNew : passing ∉ otherProgress.passing? := by
    cases otherProgress with
    | staged otherRead otherPassing left =>
        intro same
        cases Option.some.inj same
        obtain ⟨mode, data, standing⟩ := (beside.otherReady otherRead passing left rfl).standing
        cases standing.symm.trans vacant
    | _ => simp [Progress.passing?]
  exact beside.of_grownPassing sameHere grown off isNew (Setting.isReady_staged sameHere ready)
    Progress.eq_of_mem_passing?

section Staged

variable
  {read : String}
  {passing : Place}
  {stage : AtomicWrite.Stage}
  {left : List AtomicWrite.Stage}
  (beside : Beside setting other (.staged read passing (stage :: left)) otherProgress world text)

include beside

theorem ready_staged :
    AtomicWrite.Ready world.store world.here (setting.plan read passing) (stage :: left) :=
  beside.ready read passing (stage :: left) rfl

theorem offPassing : passing ∉ otherProgress.passing? := beside.apart passing rfl

/-- A stage before the move. -/
theorem of_stage
    (filled : left ≠ [])
    (sameHere : after.here = world.here)
    (steps : stage.step (setting.plan read passing) world.store world.here = .ok after.store) :
    Beside setting other (.staged read passing left) otherProgress after text := by
  obtain ⟨grown, ready⟩ := beside.ready_staged.step filled steps
  exact beside.of_grownPassing sameHere grown beside.ready_staged.off beside.offPassing
    (Setting.isReady_staged sameHere ready) Progress.eq_of_mem_passing?

/-- A call that takes its passing file away, or cannot. -/
theorem of_failedStage
    (cause : IoError)
    (sameHere : after.here = world.here)
    {stuck : List Place}
    (released : after.store = world.store.release stuck passing) :
    Beside setting other (.failed cause) otherProgress after text := by
  have grown : Grown [passing] world.store after.store := by
    rw [released]
    exact grown_release world.store stuck beside.ready_staged.named
  exact beside.of_grownPassing sameHere grown beside.ready_staged.off beside.offPassing
    (Setting.isReady_of_passing?_eq_none rfl) (by simp [Progress.passing?])

end Staged

/-- The move puts the text in the file that the call made of what it had read, whatever was put
there since. -/
theorem of_move
    {read : String}
    {passing : Place}
    (beside : Beside setting other (.staged read passing [.move]) otherProgress world text)
    (sameHere : after.here = world.here)
    (moves : AtomicWrite.Stage.move.step (setting.plan read passing) world.store world.here =
      .ok after.store) :
    Beside setting other .done otherProgress after (setting.rewritten read) := by
  have ready := beside.ready_staged
  refine ⟨beside.samePath, ?_, Setting.isReady_of_passing?_eq_none rfl, ?_, by
    simp [Progress.passing?]⟩
  · rw [sameHere]
    exact (ready.move beside.reads rfl moves).1
  · rintro otherRead otherPassing left rfl
    rw [sameHere]
    have different : otherPassing ≠ passing := by
      rintro rfl
      exact beside.offPassing rfl
    exact ready.of_move beside.reads rfl moves
      (beside.otherReady otherRead otherPassing left rfl) beside.samePath different

/-- Whatever one call does next, the calls stay beside each other. -/
theorem advance
    (beside : Beside setting other progress otherProgress world text) :
    ∃ written,
      Beside setting other (setting.advance progress world).1 otherProgress
        (setting.advance progress world).2 written ∧
      Moves setting progress.phase text (setting.advance progress world).1.phase written := by
  cases progress with
  | start =>
      have stepped : setting.advance .start world = (.read text, world) := by
        rw [Setting.advance, storedText_apply (.inl beside.reads)]
        rfl
      rw [stepped]
      exact ⟨text, beside.of_onlyGrew (OnlyGrew.refl world) rfl, .reads text⟩
  | read held =>
      rw [Setting.advance]
      rcases outcome : setting.makeRoom world with ⟨cause | done, after⟩
      · exact ⟨text, beside.of_onlyGrew (Setting.makeRoom_grows outcome) rfl, .fails _ _⟩
      · exact ⟨text, beside.of_onlyGrew (Setting.makeRoom_grows outcome) rfl, .stays _ _⟩
  | housed held =>
      rw [Setting.advance]
      rcases outcome : setting.create held world with ⟨cause | passing, after⟩
      · obtain ⟨sameHere, sameStore⟩ := Setting.create_eq_error outcome
        have grew : OnlyGrew world after := ⟨sameHere, sameStore ▸ Grown.refl _ _⟩
        exact ⟨text, beside.of_onlyGrew grew rfl, .fails _ _⟩
      · exact ⟨text, beside.of_create outcome, .stays _ _⟩
  | staged held passing left =>
      cases left with
      | nil => exact absurd rfl (beside.ready held passing [] rfl).filled
      | cons stage left =>
          rw [Setting.advance]
          rcases outcome : setting.performStage held passing stage world with ⟨cause | done, after⟩
          · obtain ⟨sameHere, released⟩ := Setting.performStage_eq_error outcome
            exact ⟨text, beside.of_failedStage cause sameHere released, .fails _ _⟩
          · obtain ⟨sameHere, steps⟩ := Setting.performStage_eq_ok outcome
            cases left with
            | nil =>
                have isMove : stage = .move := by
                  simpa [AtomicWrite.Stage.all, List.suffix_cons_iff]
                    using beside.ready_staged.order
                cases isMove
                exact ⟨_, beside.of_move sameHere steps, .writes held text⟩
            | cons next rest =>
                exact ⟨text, beside.of_stage (List.cons_ne_nil next rest) sameHere steps,
                  .stays _ _⟩
  | done => exact ⟨text, beside, .stays _ _⟩
  | failed cause => exact ⟨text, beside, .stays _ _⟩

end Beside

end SealedEnv.EnvFile
