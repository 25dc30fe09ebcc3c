import SealedEnv.Proofs.Store.Slot
import SealedEnv.Store.AtomicWrite

/-!
Contract: what a write that succeeds has done.

Owns:
- the place of the passing file: it is vacant, and no way to an entry passes it;
- `writeAtomic`, which changes the entry of its target and nothing else;
- `makeDirectories`, which adds directories and nothing else;
- `OnlyFiles`, what writing a file leaves alone.

Does not own: what becomes of a write that fails.
-/

namespace SealedEnv

namespace Store

/-! ## Looks after a change -/

theorem look_insert_name
    (store : Store)
    (name : Name)
    (above : Place)
    (node : Node)
    (place : Place) :
    (store.insert (name :: above) node).look place =
      if place = name :: above then some node else store.look place := by
  cases place with
  | nil => simp [look]
  | cons _ _ => exact look_insert store _ _ node (by simp)

/-- What is put at a place takes the place of what was put there before. -/
theorem insert_insert (store : Store) (place : Place) (first second : Node) :
    (store.insert place first).insert place second = store.insert place second := by
  unfold insert
  congr 1
  induction store.entries with
  | nil => simp [put]
  | cons entry rest inductionHypothesis =>
      by_cases same : place = entry.1
      · simp [put, same]
      · simp [put, same, inductionHypothesis]

/-- What stands at a place can be put there again. -/
theorem insert_eq_self
    {store : Store}
    {place : Place}
    (named : place ≠ [])
    {node : Node}
    (standing : store.look place = some node) :
    store.insert place node = store := by
  obtain ⟨name, above, rfl⟩ := List.exists_cons_of_ne_nil named
  obtain ⟨entries⟩ := store
  unfold insert
  congr 1
  have found : find (name :: above) entries = some node := standing
  clear standing
  induction entries with
  | nil => contradiction
  | cons entry rest inductionHypothesis =>
      rw [find] at found
      rw [put]
      split at found
      · rename_i same
        cases found
        rw [if_pos same, same]
      · rename_i different
        rw [if_neg different, inductionHypothesis found]

theorem erase_eq_self
    {store : Store}
    {place : Place}
    (free : find place store.entries = none) :
    store.erase place = store :=
  calc store.erase place
      = ((store.insert place .directory).erase place).erase place := by
        rw [erase_insert store _ free]
    _ = (store.insert place .directory).erase place := by simp [erase]
    _ = store := erase_insert store _ free

theorem look_erase_name
    (store : Store)
    (name : Name)
    (above place : Place) :
    (store.erase (name :: above)).look place =
      if place = name :: above then none else store.look place := by
  cases place with
  | nil => simp [look]
  | cons _ _ => exact look_erase store _ _ (by simp)

theorem grown_of_look_eq
    {touched : List Place}
    {store after : Store}
    (same : ∀ place, place ∉ touched → after.look place = store.look place) :
    Grown touched store after :=
  fun place apart => .inl (same place apart)

theorem look_insert_self (store : Store) {place : Place} (named : place ≠ []) (node : Node) :
    (store.insert place node).look place = some node := by
  obtain ⟨name, above, rfl⟩ := List.exists_cons_of_ne_nil named
  rw [look_insert_name, if_pos rfl]

/-- Whatever changes a store at one place leaves it as it was elsewhere. -/
theorem grown_insert (store : Store) {place : Place} (named : place ≠ []) (node : Node) :
    Grown [place] store (store.insert place node) := by
  obtain ⟨name, above, rfl⟩ := List.exists_cons_of_ne_nil named
  apply grown_of_look_eq
  intro other apart
  rw [look_insert_name, if_neg (by simpa using apart)]

theorem grown_erase (store : Store) {place : Place} (named : place ≠ []) :
    Grown [place] store (store.erase place) := by
  obtain ⟨name, above, rfl⟩ := List.exists_cons_of_ne_nil named
  apply grown_of_look_eq
  intro other apart
  rw [look_erase_name, if_neg (by simpa using apart)]

/-- What is not stuck is gone, and nothing else. -/
theorem look_release_name
    (store : Store)
    (stuck : List Place)
    (name : Name)
    (above place : Place) :
    (store.release stuck (name :: above)).look place =
      if place = name :: above ∧ name :: above ∉ stuck then none else store.look place := by
  unfold release
  by_cases isStuck : name :: above ∈ stuck
  · rw [if_pos isStuck, if_neg (by simp [isStuck])]
  · rw [if_neg isStuck, look_erase_name]
    simp [isStuck]

theorem release_eq_self
    {store : Store}
    {name : Name}
    {above : Place}
    (vacant : store.look (name :: above) = none)
    (stuck : List Place) :
    store.release stuck (name :: above) = store := by
  unfold release
  split
  · rfl
  · exact erase_eq_self vacant

theorem grown_release (store : Store) (stuck : List Place) {place : Place} (named : place ≠ []) :
    Grown [place] store (store.release stuck place) := by
  unfold release
  split
  · exact Grown.refl [place] store
  · exact grown_erase store named

/-- A move that succeeds has an entry as its target and leaves the moved file there. -/
theorem moveFile_eq_ok
    {store after : Store}
    {here source : Place}
    {target : Path}
    (moves : store.moveFile here source target = .ok after) :
    ∃ directory name node, EntryAt store here target directory name ∧
      store.look source = some node ∧
      after = (store.erase source).insert (name :: directory) node := by
  unfold moveFile at moves
  simp only [bind, Except.bind, pure, Except.pure, throw, throwThe, MonadExceptOf.throw] at moves
  split at moves
  · contradiction
  · split at moves
    · contradiction
    · rename_i slot found
      split at moves
      · rename_i directory name slashed
        split at moves
        · contradiction
        · rename_i node held
          cases slashed with
          | true => simp at moves
          | false =>
              simp only [Bool.false_eq_true, if_false] at moves
              split at moves
              · contradiction
              · cases moves
                exact ⟨directory, name, node, entryAt_of_slot found, held, rfl⟩
      · contradiction

end Store

/-! ## Replacing a file -/

namespace AtomicWrite

theorem perform_cons_eq_ok
    {plan : AtomicWrite}
    {stage : Stage}
    {rest : List Stage}
    {world after : World}
    {result : Unit}
    (succeeds : plan.perform (stage :: rest) world = (.ok result, after)) :
    ∃ store, stage.step plan world.store world.here = .ok store ∧
      plan.perform rest { world with store, refusals := world.refusals.tail } =
        (.ok result, after) := by
  obtain ⟨_, between, changed, continued⟩ := Action.bind_eq_ok_iff.mp succeeds
  obtain ⟨store, allowed, rfl⟩ := Action.change_eq_ok changed
  exact ⟨store, allowed, continued⟩

/-- A passing file that is not made changes nothing. -/
theorem perform_create_eq_error
    {plan : AtomicWrite}
    {world after : World}
    {cause : IoError}
    (fails : plan.perform [.create] world = (.error cause, after)) :
    after = { world with refusals := world.refusals.tail } := by
  rcases Action.bind_eq_error fails with refused | ⟨_, _, _, done⟩
  · exact Action.change_eq_error refused
  · cases done

/-- The store in which the passing file is ready to be moved. -/
def staged (plan : AtomicWrite) (store : Store) : Store :=
  ((store.insert plan.passing (.file ownerMode [])).insert plan.passing
    (.file ownerMode plan.data)).insert plan.passing (.file plan.mode plan.data)

theorem staged_eq (plan : AtomicWrite) (store : Store) :
    plan.staged store = store.insert plan.passing (.file plan.mode plan.data) := by
  unfold staged
  rw [Store.insert_insert, Store.insert_insert]

/-- All stages together make the file under the passing name and move it to the target. -/
theorem perform_all_eq_ok
    {plan : AtomicWrite}
    {world after : World}
    {result : Unit}
    (succeeds : plan.perform Stage.all world = (.ok result, after)) :
    after.here = world.here ∧
      (plan.staged world.store).moveFile world.here plan.passing plan.target =
        .ok after.store := by
  obtain ⟨_, created, succeeds⟩ := perform_cons_eq_ok succeeds
  obtain ⟨_, written, succeeds⟩ := perform_cons_eq_ok succeeds
  obtain ⟨_, synced, succeeds⟩ := perform_cons_eq_ok succeeds
  obtain ⟨_, permitted, succeeds⟩ := perform_cons_eq_ok succeeds
  obtain ⟨_, moved, succeeds⟩ := perform_cons_eq_ok succeeds
  cases created
  cases written
  cases synced
  cases permitted
  cases succeeds
  exact ⟨rfl, moved⟩

/-- Holds if the folder of a target is a directory, and paths in it are short enough. -/
structure HasRoom (store : Store) (here : Place) (target : Path) (directory : Place) : Prop where
  short : (besides here target sampleName).length < Store.pathBound
  located : store.locate here (folder target) true = .ok (.present directory .directory)

section Passing

variable {names : NameSource} {store : Store} {here : Place} {target : Path} {place : Place}

theorem passingPlace_eq_ok_iff :
    passingPlace names store here target = .ok place ↔
      ∃ directory, HasRoom store here target directory ∧
        place = passingName names store here target :: directory := by
  unfold passingPlace
  simp only [bind, Except.bind, pure, Except.pure, throw, throwThe, MonadExceptOf.throw]
  constructor
  · intro found
    split at found
    · contradiction
    · rename_i short
      split at found
      · contradiction
      · rename_i located
        split at found
        · cases found
          exact ⟨_, ⟨Nat.lt_of_not_le short, located⟩, rfl⟩
        · contradiction
        · contradiction
  · rintro ⟨directory, room, rfl⟩
    rw [if_neg (Nat.not_le.mpr room.short), room.located]

/-- Nothing stands where the passing file is to be. -/
theorem passingPlace_eq_ok (found : passingPlace names store here target = .ok place) :
    ∃ name above, place = name :: above ∧ store.look place = none := by
  obtain ⟨directory, room, rfl⟩ := passingPlace_eq_ok_iff.mp found
  refine ⟨_, directory, rfl, ?_⟩
  unfold passingName NameSource.name
  rw [room.located]
  exact names.vacant _ store directory

end Passing

end AtomicWrite

/-- A write that succeeds is all stages in a row. -/
theorem writeAtomic_eq_perform
    {target : Path}
    {data : Bytes}
    {mode : Nat}
    {world after : World}
    {result : Unit}
    (succeeds : writeAtomic target data mode world = (.ok result, after)) :
    ∃ passing, AtomicWrite.passingPlace world.names world.store world.here target = .ok passing ∧
      AtomicWrite.perform ⟨passing, target, mode, data⟩ AtomicWrite.Stage.all world =
        (.ok result, after) := by
  unfold writeAtomic at succeeds
  obtain ⟨_, _, got, succeeds⟩ := Action.bind_eq_ok_iff.mp succeeds
  cases got
  obtain ⟨passing, _, asked, succeeds⟩ := Action.bind_eq_ok_iff.mp succeeds
  rw [Action.withCause_eq_ok_iff, Action.ask_eq_ok_iff] at asked
  obtain ⟨found, rfl⟩ := asked
  obtain ⟨_, between, created, succeeds⟩ := Action.bind_eq_ok_iff.mp succeeds
  rw [Action.withCause_eq_ok_iff] at created
  obtain ⟨_, _, changed, done⟩ := Action.bind_eq_ok_iff.mp created
  cases done
  refine ⟨passing, found, ?_⟩
  have others : AtomicWrite.perform ⟨passing, target, mode, data⟩ AtomicWrite.Stage.all.tail
      between = (.ok result, after) := by
    rcases Action.tryCatch_eq_ok succeeds with performed | ⟨fault, _, _, handled⟩
    · exact performed
    · obtain ⟨_, _, _, thrown⟩ := Action.bind_eq_ok_iff.mp handled
      cases thrown
  exact (Action.bind_of_ok changed _).trans others

/-- A write that succeeds puts its file into the entry of its target. -/
theorem writeAtomic_eq_insert
    {target : Path}
    {data : Bytes}
    {mode : Nat}
    {world after : World}
    {result : Unit}
    (succeeds : writeAtomic target data mode world = (.ok result, after)) :
    ∃ directory name, world.store.EntryAt world.here target directory name ∧
      after.here = world.here ∧
      after.store = world.store.insert (name :: directory) (.file mode data) := by
  obtain ⟨passing, found, performed⟩ := writeAtomic_eq_perform succeeds
  obtain ⟨fresh, above, rfl, vacant⟩ := AtomicWrite.passingPlace_eq_ok found
  obtain ⟨sameHere, moved⟩ := AtomicWrite.perform_all_eq_ok performed
  rw [AtomicWrite.staged_eq] at moved
  obtain ⟨directory, name, node, entry, held, made⟩ := Store.moveFile_eq_ok moved
  have named : fresh :: above ≠ [] := List.cons_ne_nil fresh above
  have standing := Store.look_insert_self world.store named (.file mode data)
  -- The way to an entry does not pass a file, and the passing file is one.
  have wayApart := entry.apart_of_blocked standing (by simp) (by simp)
  have shrunk := Store.grown_erase (world.store.insert (fresh :: above) (.file mode data)) named
  rw [Store.erase_insert world.store _ vacant] at shrunk made
  rw [standing] at held
  rw [← Option.some.inj held] at made
  exact ⟨directory, name, entry.of_grown shrunk wayApart, sameHere, made⟩

/-- A write that succeeds changes the entry of its target, and nothing else. -/
theorem writeAtomic_eq_ok
    {target : Path}
    {data : Bytes}
    {mode : Nat}
    {world after : World}
    {result : Unit}
    (succeeds : writeAtomic target data mode world = (.ok result, after)) :
    ∃ directory name, world.store.EntryAt world.here target directory name ∧
      after.here = world.here ∧
      ∀ place, after.store.look place =
        if place = name :: directory then some (.file mode data)
        else world.store.look place := by
  obtain ⟨directory, name, entry, sameHere, made⟩ := writeAtomic_eq_insert succeeds
  refine ⟨directory, name, entry, sameHere, fun place => ?_⟩
  rw [made, Store.look_insert_name]

/-! ## Making directories -/

namespace Store

theorem makeDirectory_grows
    {store after : Store}
    {here : Place}
    {path : Path}
    (makes : store.makeDirectory here path = .ok after) :
    Grown [] store after := by
  unfold makeDirectory at makes
  simp only [bind, Except.bind, pure, Except.pure, throw, throwThe, MonadExceptOf.throw] at makes
  split at makes
  · contradiction
  · split at makes
    · rename_i directory name slashed slotFound
      split at makes
      · contradiction
      · rename_i notOccupied
        have free : store.occupied (name :: directory) = false := by simpa using notOccupied
        cases makes
        intro place _
        rw [look_insert_name]
        by_cases made : place = name :: directory
        · rw [if_pos made, made]
          exact .inr ⟨look_of_not_occupied free (List.suffix_refl _) (by simp), rfl⟩
        · rw [if_neg made]
          exact .inl rfl
    · contradiction

end Store

/-- Holds if an action, whatever came of it, did no more than add directories. -/
def OnlyGrew (world after : World) : Prop :=
  after.here = world.here ∧ Store.Grown [] world.store after.store

theorem OnlyGrew.refl (world : World) : OnlyGrew world world := ⟨rfl, Store.Grown.refl [] _⟩

theorem OnlyGrew.trans
    {world between after : World}
    (first : OnlyGrew world between)
    (second : OnlyGrew between after) :
    OnlyGrew world after :=
  ⟨second.1.trans first.1, first.2.trans second.2⟩

theorem change_makeDirectory_grows (path : Path) :
    Action.Keeps OnlyGrew (Action.change fun store here => store.makeDirectory here path) := by
  refine Action.Keeps.change (fun world => ⟨rfl, Store.Grown.refl [] _⟩) ?_
  intro world store makes
  exact ⟨rfl, Store.makeDirectory_grows makes⟩

/-- What the making of each directory keeps is kept by all of them together. -/
theorem makeDirectories_keeps
    {related : World → World → Prop}
    (refl : ∀ world, related world world)
    (trans : ∀ first second third,
      related first second → related second third → related first third)
    {paths : List Path}
    (makes : ∀ path ∈ paths, path ≠ [] → Action.Keeps related
      (Action.change fun store here => store.makeDirectory here path)) :
    Action.Keeps related (makeDirectories paths) := by
  have otherwise : ∀ path cause,
      Action.Keeps related (makeDirectories.unlessDirectory path cause) := by
    intro path cause world
    unfold makeDirectories.unlessDirectory
    rw [Action.bind_of_ok (Action.get_apply world)]
    split
    · exact refl world
    · exact refl world
  induction paths with
  | nil => exact refl
  | cons path above inductionHypothesis =>
      have aboveKeeps := inductionHypothesis fun other member =>
        makes other (List.mem_cons_of_mem path member)
      rw [makeDirectories]
      split
      · exact refl
      · rename_i filled
        have makesPath := makes path List.mem_cons_self (by simpa using filled)
        apply makesPath.tryCatch trans
        intro cause
        split
        · apply aboveKeeps.bind trans
          intro _
          exact makesPath.tryCatch trans (otherwise path)
        · exact otherwise path cause

/-- Making directories adds directories and nothing else, whether it succeeds or not. -/
theorem makeDirectories_grows
    {paths : List Path}
    {world after : World}
    {result : Except IoError Unit}
    (makes : makeDirectories paths world = (result, after)) :
    OnlyGrew world after :=
  (makeDirectories_keeps OnlyGrew.refl (fun _ _ _ => OnlyGrew.trans)
    fun path _ _ => change_makeDirectory_grows path).of_eq makes

/-! ## Outside the files -/

/-- Holds if a world is another one in which nothing but the files and the refusals to come may
differ. -/
def OnlyFiles (world after : World) : Prop :=
  after = { world with store := after.store, refusals := after.refusals }

namespace OnlyFiles

theorem refl (world : World) : OnlyFiles world world := rfl

theorem trans
    (world between after : World)
    (first : OnlyFiles world between)
    (second : OnlyFiles between after) :
    OnlyFiles world after := by
  calc after
      = { between with store := after.store, refusals := after.refusals } := second
    _ = { world with store := after.store, refusals := after.refusals } := by rw [first]

theorem change (step : Store → Place → Except IoError Store) :
    Action.Keeps OnlyFiles (Action.change step) := by
  have files : ∀ world store, OnlyFiles world
      { world with store, refusals := world.refusals.tail } := fun _ _ => rfl
  exact Action.Keeps.change (fun world => files world world.store) fun world store _ =>
    files world store

theorem perform (plan : AtomicWrite) (stages : List AtomicWrite.Stage) :
    Action.Keeps OnlyFiles (plan.perform stages) := by
  induction stages with
  | nil => exact refl
  | cons stage rest inductionHypothesis =>
      apply (change _).bind trans
      intro _
      exact inductionHypothesis

theorem writeAtomic (target : Path) (data : Bytes) (mode : Nat) :
    Action.Keeps OnlyFiles (writeAtomic target data mode) := by
  have gets : Action.Keeps OnlyFiles (get : Action IoError World) := refl
  apply gets.bind trans
  intro world
  have asks : Action.Keeps OnlyFiles
      (Action.ask fun store here => AtomicWrite.passingPlace world.names store here target) := refl
  apply asks.withCause.bind trans
  intro passing
  apply (perform _ _).withCause.bind trans
  intro _
  apply (perform _ _).tryCatch trans
  intro cause world
  rfl

theorem writeAtomicWithin (target : Path) (data : Bytes) (mode : Nat) :
    Action.Keeps OnlyFiles (writeAtomicWithin target data mode) := by
  unfold SealedEnv.writeAtomicWithin
  cases target.parent? with
  | none => exact writeAtomic target data mode
  | some parent =>
      have makes : Action.Keeps OnlyFiles (makeDirectories parent.ancestors) :=
        makeDirectories_keeps refl trans fun _ _ _ => change _
      apply makes.bind trans
      intro _
      exact writeAtomic target data mode

end OnlyFiles

/-! ## Writes with their directories -/

/-- A write that makes its directories and succeeds is one in a world to which directories were
added. -/
theorem writeAtomicWithin_eq_writeAtomic
    {target : Path}
    {data : Bytes}
    {mode : Nat}
    {world after : World}
    {result : Unit}
    (succeeds : writeAtomicWithin target data mode world = (.ok result, after)) :
    ∃ between, OnlyGrew world between ∧
      writeAtomic target data mode between = (.ok result, after) := by
  unfold writeAtomicWithin at succeeds
  cases parent : target.parent? with
  | none =>
      rw [parent] at succeeds
      exact ⟨world, OnlyGrew.refl world, succeeds⟩
  | some folder =>
      rw [parent] at succeeds
      obtain ⟨_, between, made, written⟩ := Action.bind_eq_ok_iff.mp succeeds
      exact ⟨between, makeDirectories_grows made, written⟩

/-- A write that makes its directories and succeeds adds directories and changes the entry of its
target, and nothing else. -/
theorem writeAtomicWithin_eq_ok
    {target : Path}
    {data : Bytes}
    {mode : Nat}
    {world after : World}
    {result : Unit}
    (succeeds : writeAtomicWithin target data mode world = (.ok result, after)) :
    ∃ (grown : Store) (directory : Place) (name : Name),
      Store.Grown [] world.store grown ∧
      grown.EntryAt world.here target directory name ∧
      after.here = world.here ∧
      ∀ place, after.store.look place =
        if place = name :: directory then some (.file mode data) else grown.look place := by
  obtain ⟨between, grew, written⟩ := writeAtomicWithin_eq_writeAtomic succeeds
  obtain ⟨directory, name, entry, sameHere, looks⟩ := writeAtomic_eq_ok written
  rw [grew.1] at entry sameHere
  exact ⟨between.store, directory, name, grew.2, entry, sameHere, looks⟩

end SealedEnv
