import SealedEnv.Proofs.Store.Barrier
import SealedEnv.Proofs.Store.KnownNames

/-!
Contract: a write happens as a whole or not at all, at each of its stages.

Owns:
- `Pending`, a store to which the passing file was added and nothing else;
- `Leaves`, what a write that fails leaves: the store it began with, and its passing file if that is
  stuck;
- `DrawnAside`, which is taken for granted of the name that is drawn for the passing file;
- `Underway`, the worlds that a write goes through, and the law of all of them.

Does not own: directories that are made before a write.
-/

namespace SealedEnv

open Store

namespace AtomicWrite

/-! ## Stages before the move -/

/-- Holds if a store is another one to which the passing file was added, if anything. -/
def Pending (plan : AtomicWrite) (store between : Store) : Prop :=
  between = store ∨ ∃ mode data, between = store.insert plan.passing (.file mode data)

namespace Pending

variable {plan : AtomicWrite} {store between after : Store} {here : Place}

theorem insert
    (pending : Pending plan store between)
    (mode : Nat)
    (data : Bytes) :
    Pending plan store (between.insert plan.passing (.file mode data)) := by
  rcases pending with rfl | ⟨oldMode, oldData, rfl⟩
  · exact .inr ⟨mode, data, rfl⟩
  · rw [insert_insert]
    exact .inr ⟨mode, data, rfl⟩

theorem step
    (pending : Pending plan store between)
    {stage : Stage}
    (notMove : stage ≠ .move)
    (steps : stage.step plan between here = .ok after) :
    Pending plan store after := by
  cases stage with
  | create =>
      cases steps
      exact pending.insert _ _
  | write =>
      cases steps
      exact pending.insert _ _
  | sync =>
      cases steps
      exact pending
  | permit =>
      cases steps
      exact pending.insert _ _
  | move => contradiction

/-- Stages in a row add nothing but the passing file, unless the last of them is a move that
succeeds. -/
theorem perform
    {stages : List Stage}
    (moveLast : Stage.move ∉ stages.dropLast)
    {world final : World}
    {result : Except IoError Unit}
    (pending : Pending plan store world.store)
    (performs : plan.perform stages world = (result, final))
    (unmoved : Stage.move ∉ stages ∨ ∃ cause, result = .error cause) :
    Pending plan store final.store := by
  induction stages generalizing world with
  | nil =>
      cases performs
      exact pending
  | cons stage rest inductionHypothesis =>
      rw [AtomicWrite.perform] at performs
      rcases outcome : Action.change (fun store here => stage.step plan store here) world with
        ⟨fault | done, between⟩
      · rw [Action.bind_of_error outcome] at performs
        cases performs
        rw [Action.change_eq_error outcome]
        exact pending
      · rw [Action.bind_of_ok outcome] at performs
        obtain ⟨changed, allowed, rfl⟩ := Action.change_eq_ok outcome
        have notMove : stage ≠ .move := by
          rintro rfl
          cases rest with
          | cons next others => simp at moveLast
          | nil =>
              cases performs
              simp at unmoved
        have restLast : Stage.move ∉ rest.dropLast := by
          cases rest with
          | nil => simp
          | cons next others => exact fun inside => moveLast (List.mem_cons_of_mem stage inside)
        have restUnmoved : Stage.move ∉ rest ∨ ∃ cause, result = .error cause := by
          rcases unmoved with absent | fails
          · exact .inl fun inside => absent (List.mem_cons_of_mem stage inside)
          · exact .inr fails
        have next := pending.step notMove allowed
        exact inductionHypothesis restLast next performs restUnmoved

/-- Taking the passing file away gives the store back. -/
theorem erase
    (pending : Pending plan store between)
    (free : find plan.passing store.entries = none) :
    between.erase plan.passing = store := by
  rcases pending with rfl | ⟨mode, data, rfl⟩
  · exact erase_eq_self free
  · exact erase_insert store _ free

/-- Nothing is left of the passing file after it was discarded, unless it is stuck. -/
theorem release
    (pending : Pending plan store between)
    (free : find plan.passing store.entries = none)
    (stuck : List Place) :
    between.release stuck plan.passing = store ∨
      plan.passing ∈ stuck ∧ Pending plan store (between.release stuck plan.passing) := by
  unfold Store.release
  split_ifs with isStuck
  · exact .inr ⟨isStuck, pending⟩
  · exact .inl (pending.erase free)

theorem look_other
    (pending : Pending plan store between)
    {name : Name}
    {above : Place}
    (isPassing : plan.passing = name :: above)
    {place : Place}
    (different : place ≠ plan.passing) :
    between.look place = store.look place := by
  rcases pending with rfl | ⟨mode, data, rfl⟩
  · rfl
  · rw [isPassing] at different ⊢
    rw [look_insert_name, if_neg different]

end Pending

/-- The first stages add nothing but the passing file, and so do all of them if they fail. -/
theorem pending_of_perform
    {plan : AtomicWrite}
    {count : Nat}
    {world between : World}
    {result : Except IoError Unit}
    (performs : plan.perform (Stage.all.take count) world = (result, between))
    (unfinished : count < Stage.all.length ∨ ∃ cause, result = .error cause) :
    Pending plan world.store between.store := by
  have moveLast : ∀ count, Stage.move ∉ (Stage.all.take count).dropLast
    | 0 | 1 | 2 | 3 | 4 => by decide
    | count + 5 => by
        rw [List.take_of_length_le (Nat.le_add_left 5 count)]
        decide
  have unmoved : Stage.move ∉ Stage.all.take count ∨ ∃ cause, result = .error cause := by
    rcases unfinished with before | fails
    · have early : ∀ count < Stage.all.length, Stage.move ∉ Stage.all.take count := by decide
      exact .inl (early count before)
    · exact .inr fails
  have start : Pending plan world.store world.store := .inl rfl
  exact start.perform (moveLast count) performs unmoved

/-! ## The passing file and the target -/

section Target

variable {target : Path} {data : Bytes} {mode : Nat} {world between after : World}

/-- Holds if the name that is drawn for the passing file is not on the way of the target: no link
leads there, and it is not the target itself. -/
def DrawnAside (world : World) (target : Path) : Prop :=
  ∀ passing, passingPlace world.names world.store world.here target = .ok passing →
    passing ∉ world.store.trailOf world.here target true

/-- A name that occurs neither in the store nor in the target is not on its way. -/
theorem drawnAside_of_unknown
    (unknown : passingName world.names world.store world.here target ∉ world.store.knownNames)
    (absent : passingName world.names world.store world.here target ∉ target.pieces) :
    DrawnAside world target := by
  intro passing found
  obtain ⟨directory, -, rfl⟩ := passingPlace_eq_ok_iff.mp found
  exact not_mem_trail unknown absent

/-- Holds of a store in which a target leads where it led.  If it led to nothing this is only asked
where the name that was drawn is not on its way. -/
def LeadsAsBefore (world : World) (target : Path) (after : Store) : Prop :=
  ∀ follow,
    (DrawnAside world target ∨
      ∃ found held, world.store.locate world.here target follow = .ok (.present found held)) →
    after.locate world.here target follow = world.store.locate world.here target follow

/-- Nothing stood where the passing file is, so that a way that ended at something does not pass
it. -/
theorem Pending.leadsAsBefore
    {passing : Place}
    (found : passingPlace world.names world.store world.here target = .ok passing)
    {store : Store}
    (pending : Pending ⟨passing, target, mode, data⟩ world.store store) :
    LeadsAsBefore world target store := by
  obtain ⟨name, above, isPassing, vacant⟩ := passingPlace_eq_ok found
  have aside : ∀ follow,
      (DrawnAside world target ∨
        ∃ reached held, world.store.locate world.here target follow =
          .ok (.present reached held)) →
      passing ∉ world.store.trailOf world.here target follow := by
    rintro follow (aside | ⟨reached, held, located⟩) onTrail
    · apply aside passing found
      cases follow with
      | true => exact onTrail
      | false => exact (trailOf_false_isPrefix _ _ _).subset onTrail
    · exact trail_standing (walk_of_locate located) passing onTrail vacant
  intro follow granted
  apply locate_congr
  intro place onTrail
  apply pending.look_other isPassing
  rintro rfl
  exact aside follow granted onTrail

/-! ## Underway -/

/-- Holds of the worlds that a write goes through until its move has succeeded: those after some of
its stages, the last of which may have failed. -/
def Underway (target : Path) (data : Bytes) (mode : Nat) (world between : World) : Prop :=
  ∃ passing count result,
    passingPlace world.names world.store world.here target = .ok passing ∧
      perform ⟨passing, target, mode, data⟩ (Stage.all.take count) world = (result, between) ∧
      (count < Stage.all.length ∨ ∃ cause, result = .error cause)

/-- While a write is under way nothing but the passing file has come or gone. -/
theorem Underway.exists_pending (underway : Underway target data mode world between) :
    ∃ passing, passingPlace world.names world.store world.here target = .ok passing ∧
      Pending ⟨passing, target, mode, data⟩ world.store between.store := by
  obtain ⟨passing, count, result, found, performs, unfinished⟩ := underway
  exact ⟨passing, found, pending_of_perform performs unfinished⟩

theorem Underway.unchanged (underway : Underway target data mode world between) :
    LeadsAsBefore world target between.store ∧
    ∃ passing, passingPlace world.names world.store world.here target = .ok passing ∧
      world.store.look passing = none ∧
      ∀ place, place ≠ passing → between.store.look place = world.store.look place := by
  obtain ⟨passing, found, pending⟩ := underway.exists_pending
  obtain ⟨name, above, isPassing, vacant⟩ := passingPlace_eq_ok found
  exact ⟨pending.leadsAsBefore found, passing, found, vacant, fun _ => pending.look_other isPassing⟩

/-! ## Writes that fail -/

/-- A write that fails has not begun, or it is left at some stage and its passing file is
discarded. -/
theorem writeAtomic_eq_error
    {cause : IoError}
    (fails : writeAtomic target data mode world = (.error cause, after)) :
    after = world ∨ ∃ between passing, Underway target data mode world between ∧
      passingPlace world.names world.store world.here target = .ok passing ∧
      after = { between with store := between.store.release world.stuck passing } := by
  unfold writeAtomic at fails
  rw [Action.bind_of_ok (Action.get_apply world)] at fails
  rcases Action.bind_eq_error fails with refused | ⟨passing, asker, asked, fails⟩
  · obtain ⟨fault, asked, -⟩ := Action.withCause_eq_error refused
    exact .inl (congrArg Prod.snd asked).symm
  · rw [Action.withCause_eq_ok_iff, Action.ask_eq_ok_iff] at asked
    obtain ⟨found, unchanged⟩ := asked
    rw [unchanged] at fails
    obtain ⟨name, above, isPassing, vacant⟩ := passingPlace_eq_ok found
    right
    rcases Action.bind_eq_error fails with uncreated | ⟨_, made, created, fails⟩
    · obtain ⟨fault, performs, -⟩ := Action.withCause_eq_error uncreated
      refine ⟨after, passing, ⟨passing, 1, _, found, performs, .inl (by decide)⟩, found, ?_⟩
      rw [perform_create_eq_error performs]
      -- There is no file that could be discarded.
      have idle : world.store.release world.stuck passing = world.store := by
        rw [isPassing] at vacant ⊢
        exact release_eq_self vacant world.stuck
      rw [idle]
    · rw [Action.withCause_eq_ok_iff] at created
      obtain ⟨_, _, changed, done⟩ := Action.bind_eq_ok_iff.mp created
      cases done
      obtain ⟨fault, between, others, handled⟩ := Action.tryCatch_eq_error fails
      have performs : perform ⟨passing, target, mode, data⟩ (Stage.all.take 5) world =
          (.error fault, between) :=
        (Action.bind_of_ok changed _).trans others
      have unfinished : 5 < Stage.all.length ∨
          ∃ cause, (Except.error fault : Except IoError Unit) = .error cause :=
        .inr ⟨fault, rfl⟩
      have files : OnlyFiles world between := (OnlyFiles.perform _ _).of_eq performs
      refine ⟨between, passing, ⟨passing, 5, _, found, performs, unfinished⟩, found, ?_⟩
      cases handled
      rw [files]

/-- Holds of what a write to a target may leave when it fails: the store it began with, or that and
a passing file that is stuck. -/
def Leaves (world : World) (target : Path) (after : Store) : Prop :=
  after = world.store ∨ ∃ passing mode data,
    passingPlace world.names world.store world.here target = .ok passing ∧
      passing ∈ world.stuck ∧ world.store.look passing = none ∧
      after = world.store.insert passing (.file mode data)

theorem leaves_of_writeAtomic_error
    {cause : IoError}
    (fails : writeAtomic target data mode world = (.error cause, after)) :
    Leaves world target after.store ∧ LeadsAsBefore world target after.store := by
  rcases writeAtomic_eq_error fails with rfl | ⟨between, passing, underway, found, rfl⟩
  · exact ⟨.inl rfl, fun _ _ => rfl⟩
  · obtain ⟨_, foundToo, pending⟩ := underway.exists_pending
    cases found.symm.trans foundToo
    obtain ⟨name, above, rfl, vacant⟩ := passingPlace_eq_ok found
    constructor
    · rcases pending.release vacant world.stuck with same | ⟨isStuck, same | ⟨mode, data, made⟩⟩
      · exact .inl same
      · exact .inl same
      · exact .inr ⟨_, mode, data, found, isStuck, vacant, made⟩
    · rcases pending.release vacant world.stuck with same | ⟨-, left⟩
      · exact fun follow _ => congrArg (·.locate world.here target follow) same
      · exact left.leadsAsBefore found

/-- If everything that is new can be taken away, a write that fails leaves what it began with. -/
theorem Leaves.eq_of_letsGo
    {store : Store}
    (leaves : Leaves world target store)
    (letsGo : Action.LetsGo world) :
    store = world.store := by
  rcases leaves with same | ⟨passing, _, _, -, isStuck, vacant, -⟩
  · exact same
  · exact absurd vacant (letsGo passing isStuck)

/-- What a write that fails may leave is one file at most, where nothing stood, and that is
stuck. -/
theorem Leaves.exists_addsFile
    {store : Store}
    (leaves : Leaves world target store) :
    ∃ added : Option Place, AddsFile added world.store store ∧ ∀ place ∈ added,
      place ∈ world.stuck := by
  rcases leaves with rfl | ⟨passing, oldMode, content, found, isStuck, vacant, rfl⟩
  · exact ⟨none, ⟨by simp, fun _ _ => rfl⟩, by simp⟩
  · obtain ⟨name, above, rfl, -⟩ := passingPlace_eq_ok found
    refine ⟨some (name :: above), ⟨?_, ?_⟩, ?_⟩
    · rintro place ⟨⟩
      exact ⟨vacant, oldMode, content, by rw [look_insert_name, if_pos rfl]⟩
    · intro place different
      rw [look_insert_name, if_neg]
      rintro rfl
      exact different rfl
    · rintro place ⟨⟩
      exact isStuck

end Target

end AtomicWrite

/-! ## Every stage -/

open AtomicWrite

/-- A write happens as a whole or not at all.  Until its move has succeeded, and after a failure,
its target leads where it led, which where it led to nothing takes a drawn name that is not on its
way, and nothing but the passing file has come; and after a failure that is gone as well, unless it
is stuck.  If the write succeeds, the entry that the target ended at holds the file, and nothing
else has changed, not even what a link in that entry led to; the target leads to the file unless it
passes that entry before its end, and else to nothing.  A drawn name that occurs nowhere is on no
way. -/
theorem writeAtomic_all_or_nothing
    (target : Path)
    (data : Bytes)
    (mode : Nat)
    (world : World) :
    (∀ between, Underway target data mode world between →
      LeadsAsBefore world target between.store ∧
      ∃ passing, passingPlace world.names world.store world.here target = .ok passing ∧
        world.store.look passing = none ∧
        ∀ place, place ≠ passing → between.store.look place = world.store.look place) ∧
    (∀ cause after, writeAtomic target data mode world = (.error cause, after) →
      Leaves world target after.store ∧ LeadsAsBefore world target after.store ∧
        (after = world ∨ ∃ between passing, Underway target data mode world between ∧
          passingPlace world.names world.store world.here target = .ok passing ∧
          after = { between with store := between.store.release world.stuck passing })) ∧
    (∀ after, writeAtomic target data mode world = (.ok (), after) →
      (∃ passing, passingPlace world.names world.store world.here target = .ok passing ∧
        perform ⟨passing, target, mode, data⟩ Stage.all world = (.ok (), after)) ∧
      ∃ place, world.store.entryOf world.here target = some place ∧
        after.store.look place = some (.file mode data) ∧
        (∀ other, other ≠ place → after.store.look other = world.store.look other) ∧
        (∀ old, world.store.look place = some (.link old) →
          ∀ reached oldMode content, world.store.locate world.here target true =
            .ok (.present reached (.file oldMode content)) →
              after.store.look reached = some (.file oldMode content)) ∧
        (world.store.OwnAhead world.here target → ∀ follow,
          after.store.locate world.here target follow = .ok (.present place (.file mode data))) ∧
        (¬world.store.OwnAhead world.here target → ∀ follow found held,
          after.store.locate world.here target follow ≠ .ok (.present found held))) ∧
    (passingName world.names world.store world.here target ∉ world.store.knownNames →
      passingName world.names world.store world.here target ∉ target.pieces →
        DrawnAside world target) := by
  refine ⟨fun between => Underway.unchanged, fun cause after fails => ?_, fun after succeeds => ?_,
    drawnAside_of_unknown⟩
  · obtain ⟨leaves, leads⟩ := leaves_of_writeAtomic_error fails
    exact ⟨leaves, leads, writeAtomic_eq_error fails⟩
  · obtain ⟨-, place, wrote⟩ := wrote_of_writeAtomic succeeds
    refine ⟨writeAtomic_eq_perform succeeds, place, wrote.entryOf_eq, wrote.held,
      fun other => wrote.look_other, ?_, ?_, ?_⟩
    · intro old isLink reached oldMode content located
      have isFile := look_of_locate located
      have different : reached ≠ place := by
        rintro rfl
        rw [isLink] at isFile
        cases isFile
      rw [wrote.look_other different, isFile]
    · intro own follow
      exact wrote.locate (wrote.ownAhead_iff.mp own) follow
    · intro passesItself follow found held
      exact (wrote.barred_self passesItself).locate_ne_present follow found held

/-! ## Links at the target -/

namespace Linked

/-- A store with a directory `d` and a file `f`, and links `l` and `m` to them. -/
def store : Store :=
  ⟨[([[100]], .directory), ([[108]], .link [100]), ([[102]], .file 0o600 [7]),
    ([[109]], .link [102])]⟩

def world : World := { (default : World) with store }

/-- The path `l/../l`, which goes through the link that is its own entry. -/
def throughItself : Path := [108, 47, 46, 46, 47, 108]

end Linked

open Linked in
/-- A link to a file is replaced, and the file that it led to keeps its content and its
permissions. -/
theorem writeAtomic_replaces_link :
    ∃ after, writeAtomic [109] [1] 0o644 world = (.ok (), after) ∧
      after.store.look [[109]] = some (.file 0o644 [1]) ∧
      after.store.look [[102]] = some (.file 0o600 [7]) ∧
      after.store.locate [] [109] true = .ok (.present [[109]] (.file 0o644 [1])) := by
  have succeeds : (writeAtomic [109] [1] 0o644 world).1 = .ok () := by decide +kernel
  have isEntry : world.store.entryOf world.here [109] = some [[109]] := by decide +kernel
  have isLink : world.store.look [[109]] = some (.link [102]) := by decide
  have toFile : world.store.locate world.here [109] true =
      .ok (.present [[102]] (.file 0o600 [7])) := by
    decide +kernel
  have own : world.store.OwnAhead world.here [109] := by
    unfold OwnAhead
    decide +kernel
  obtain ⟨-, -, whole, -⟩ := writeAtomic_all_or_nothing [109] [1] 0o644 world
  obtain ⟨-, place, entry, held, -, target, leads, -⟩ := whole _ (Prod.ext succeeds rfl)
  cases isEntry.symm.trans entry
  exact ⟨_, Prod.ext succeeds rfl, held, target _ isLink _ _ _ toFile, leads own true⟩

open Linked in
/-- A write through a path that passes its own entry succeeds, and the path leads to nothing
afterwards: the link that it went through is now the file. -/
theorem writeAtomic_through_itself :
    (writeAtomic throughItself [1] 0o644 world).1 = .ok () ∧
      (writeAtomic throughItself [1] 0o644 world).2.store.look [[108]] =
        some (.file 0o644 [1]) ∧
      (writeAtomic throughItself [1] 0o644 world).2.store.locate world.here throughItself true =
        .error (.os .notDirectory) := by
  decide +kernel

open Linked in
/-- A directory cannot be replaced, and a passing file that is stuck is left beside it. -/
example :
    let passing : Place := [Path.ofText ".tmp-000000"]
    let final := (writeAtomic [100] [1] 0o644 { world with stuck := [passing] }).2.store
    final.look [[100]] = some .directory ∧ final.look passing = some (.file 0o644 [1]) := by
  decide +kernel

end SealedEnv
