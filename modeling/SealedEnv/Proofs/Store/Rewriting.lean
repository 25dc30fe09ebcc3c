import SealedEnv.Proofs.Store.Ancestors

/-!
Contract: a file that was written can be written again.

Owns:
- the success of a write: a file in the entry of its target, a place for the passing file, and no
  refusals are enough;
- `Rewritable`, what a path has after it was written, and after every further write to it;
- the store after a further write, which holds the new bytes in the same entry.

Does not own: what is written.
-/

namespace SealedEnv

namespace Store

/-! ## Directories that are there -/

/-- A way that ends at something goes through an entry under its first name. -/
theorem standing_of_walk
    {store : Store}
    {follow : Bool}
    {links : Nat}
    {directory found : Place}
    {piece : Name}
    (isName : IsName piece)
    {rest : List Name}
    {held : Node}
    (leads : walk store follow links directory (piece :: rest) = .ok (.present found held)) :
    piece.length ≤ nameLimit ∧ store.look (piece :: directory) ≠ none := by
  have outcome : piece.length ≤ nameLimit ∧
      ∃ node, store.look (piece :: directory) = some node := by
    cases links with
    | zero =>
        obtain ⟨short, node, standing, -⟩ := walkWith_name_eq_present _ _ _ _ isName leads
        exact ⟨short, node, standing⟩
    | succ links =>
        obtain ⟨short, node, standing, -⟩ := walkWith_name_eq_present _ _ _ _ isName leads
        exact ⟨short, node, standing⟩
  obtain ⟨short, node, standing⟩ := outcome
  exact ⟨short, by simp [standing]⟩

/-- A path that leads to a directory leads there through a directory in which its last piece, if it
is a name, is that of an entry. -/
theorem exists_reach_of_locate
    {store : Store}
    {here : Place}
    {path : Path}
    {place : Place}
    (located : store.locate here path true = .ok (.present place .directory))
    {last : Name}
    (final : (bodyOf path).getLast? = some last) :
    ∃ above, store.reach here path (bodyOf path).dropLast true =
        .ok (.present above .directory) ∧
      (IsName last → last.length ≤ nameLimit ∧ store.look (last :: above) ≠ none) := by
  have leads := walk_of_locate located
  obtain ⟨slashes, isPath⟩ := bodyOf_isPrefix path
  have body : bodyOf path = (bodyOf path).dropLast ++ [last] :=
    (List.dropLast_append_getLast? last final).symm
  have whole : path.pieces = (bodyOf path).dropLast ++ ([last] ++ slashes) := by
    rw [← List.append_assoc, ← body, isPath]
  rw [whole] at leads
  obtain ⟨above, toAbove⟩ := exists_walk_prefix (by simp) leads
  obtain ⟨left, follows⟩ := walk_append toAbove
  rw [(follows true _ (by simp)).1] at leads
  refine ⟨above, ?_, fun isName => standing_of_walk isName leads⟩
  unfold reach
  rw [toAbove]
  rfl

/-- A path that leads to a directory ends at an entry that is there, or at no entry. -/
theorem exists_slot_of_locate
    {store : Store}
    {here : Place}
    {path : Path}
    {place : Place}
    (located : store.locate here path true = .ok (.present place .directory)) :
    ∃ slot, store.slot here path = .ok slot ∧
      ∀ name slashed, slot.tail = .named name slashed →
        store.look (name :: slot.directory) ≠ none := by
  obtain ⟨_, valid, -⟩ := exists_of_bind_eq_ok located
  cases final : (bodyOf path).getLast? with
  | none =>
      unfold bodyOf at final
      refine ⟨⟨[], .root⟩, ?_, by simp⟩
      unfold slot
      simp only [valid, bind, Except.bind, final]
      rfl
  | some last =>
      obtain ⟨above, arrives, ends⟩ := exists_reach_of_locate located final
      unfold bodyOf at final arrives
      unfold slot
      simp only [valid, bind, Except.bind, pure, Except.pure, final, arrives]
      by_cases dots : (Path.isIdle last || decide (last = Path.dotDot)) = true
      · rw [if_pos dots]
        exact ⟨_, rfl, by simp⟩
      · rw [if_neg dots]
        simp only [Bool.or_eq_true, not_or, decide_eq_true_eq] at dots
        obtain ⟨short, standing⟩ := ends ⟨by simpa using dots.1, dots.2⟩
        rw [if_neg (Nat.not_lt.mpr short)]
        refine ⟨_, rfl, fun name slashed isTail => ?_⟩
        cases isTail
        exact standing

theorem makeDirectory_of_directory
    {store : Store}
    {here : Place}
    {path : Path}
    {place : Place}
    (located : store.locate here path true = .ok (.present place .directory)) :
    store.makeDirectory here path = .error (.os .alreadyExists) := by
  obtain ⟨⟨directory, tail⟩, isSlot, standing⟩ := exists_slot_of_locate located
  unfold makeDirectory
  simp only [isSlot, bind, Except.bind]
  cases tail with
  | root => rfl
  | dots => rfl
  | named name slashed =>
      cases free : store.occupied (name :: directory) with
      | true =>
          simp only [free]
          rfl
      | false =>
          have vacant := look_of_not_occupied free (List.suffix_refl _) (by simp)
          exact absurd vacant (standing name slashed rfl)

end Store

theorem Path.exists_ancestors_eq_cons (path : Path) :
    ∃ above, path.ancestors = path :: above := by
  unfold ancestors
  cases path.length with
  | zero => exact ⟨[], rfl⟩
  | succ fuel =>
      rw [ancestorsWithin]
      split
      · exact ⟨[], rfl⟩
      · exact ⟨_, rfl⟩

/-- Nothing is made where the first of the directories is there. -/
theorem makeDirectories_of_directory
    {world : World}
    {path : Path}
    (filled : path ≠ [])
    {place : Place}
    (located : world.store.locate world.here path true = .ok (.present place .directory))
    {count : Nat}
    (grants : Action.Grants world (count + 1))
    (above : List Path) :
    makeDirectories (path :: above) world =
      (.ok (), { world with refusals := world.refusals.tail }) := by
  have refused : Action.change (fun store here => store.makeDirectory here path) world =
      (.error (.os .alreadyExists), { world with refusals := world.refusals.tail }) :=
    Action.change_of_error grants (Store.makeDirectory_of_directory located)
  have isDirectory : world.store.isDirectory world.here path = true := by
    unfold Store.isDirectory
    rw [Store.node_of_locate located]
  unfold makeDirectories
  rw [if_neg (by simpa using filled), Action.tryCatch_of_error refused, if_neg (by decide)]
  unfold makeDirectories.unlessDirectory
  rw [Action.bind_of_ok (Action.get_apply _), if_pos isDirectory]
  rfl

/-! ## Writes that succeed -/

namespace Store

/-- A file is moved to an entry that holds no directory. -/
theorem EntryAt.moveFile
    {store : Store}
    {here : Place}
    {target : Path}
    {directory : Place}
    {name : Name}
    (entry : EntryAt store here target directory name)
    {source : Place}
    {held : Node}
    (standing : store.look source = some held)
    (noDirectory : store.look (name :: directory) ≠ some .directory) :
    store.moveFile here source target =
      .ok ((store.erase source).insert (name :: directory) held) := by
  have noZero : target.contains 0 = false := by
    have valid := entry.valid
    unfold checkPath at valid
    split at valid
    · contradiction
    · rename_i noZero
      exact Bool.eq_false_iff.mpr noZero
  unfold Store.moveFile
  simp only [noZero, entry.slot, standing, if_neg noDirectory, bind, Except.bind, pure, Except.pure,
    Bool.false_eq_true, if_false]

end Store

namespace AtomicWrite

/-- Stages succeed in a row if the store allows them and the system refuses none of them. -/
theorem exists_perform
    (plan : AtomicWrite)
    (stages : List Stage)
    {world : World}
    (grants : Action.Grants world stages.length)
    {store : Store}
    (steps : stages.foldlM (fun store stage => stage.step plan store world.here) world.store =
      .ok store) :
    ∃ after, plan.perform stages world = (.ok (), after) ∧ after.store = store := by
  induction stages generalizing world with
  | nil =>
      cases steps
      exact ⟨world, rfl, rfl⟩
  | cons stage rest inductionHypothesis =>
      rw [List.foldlM_cons] at steps
      obtain ⟨next, allowed, others⟩ := exists_of_bind_eq_ok steps
      have changed : Action.change (fun store here => stage.step plan store here) world =
          (.ok (), _) :=
        Action.change_of_ok grants allowed
      obtain ⟨after, performs, isStore⟩ := inductionHypothesis (grants.tail next) others
      exact ⟨after, (Action.bind_of_ok changed _).trans performs, isStore⟩

end AtomicWrite

open AtomicWrite

/-- Once the passing file is complete, it is moved to the entry of the target. -/
theorem AtomicWrite.moveFile_staged
    {plan : AtomicWrite}
    {store : Store}
    {here : Place}
    {directory : Place}
    {name : Name}
    (entry : store.EntryAt here plan.target directory name)
    (noDirectory : store.look (name :: directory) ≠ some .directory)
    {names : NameSource}
    (fits : passingPlace names store here plan.target = .ok plan.passing) :
    (plan.staged store).moveFile here plan.passing plan.target =
      .ok (((plan.staged store).erase plan.passing).insert (name :: directory)
        (.file plan.mode plan.data)) := by
  obtain ⟨fresh, above, isPassing, vacant⟩ := passingPlace_eq_ok fits
  have named : plan.passing ≠ [] := by
    rw [isPassing]
    exact List.cons_ne_nil fresh above
  have wayApart := entry.apart_of_blocked vacant (by simp) (by simp)
  have stagedEntry : (plan.staged store).EntryAt here plan.target directory name := by
    rw [staged_eq]
    exact entry.of_grown (Store.grown_insert store named _) wayApart
  have stagedNoDirectory : (plan.staged store).look (name :: directory) ≠ some .directory := by
    rw [staged_eq, isPassing, Store.look_insert_name]
    split
    · simp
    · exact noDirectory
  apply stagedEntry.moveFile _ stagedNoDirectory
  rw [staged_eq]
  exact Store.look_insert_self store named _

/-- A write succeeds if a file stands in the entry of its target, there is a place for the passing
file, and the system refuses nothing. -/
theorem writeAtomic_of_entryAt
    {world : World}
    {target : Path}
    {directory : Place}
    {name : Name}
    (entry : world.store.EntryAt world.here target directory name)
    (noDirectory : world.store.look (name :: directory) ≠ some .directory)
    {passing : Place}
    (fits : passingPlace world.names world.store world.here target = .ok passing)
    (grants : Action.Grants world 5)
    (data : Bytes)
    (mode : Nat) :
    ∃ after, writeAtomic target data mode world = (.ok (), after) := by
  let plan : AtomicWrite := ⟨passing, target, mode, data⟩
  have moves : (plan.staged world.store).moveFile world.here plan.passing plan.target = .ok _ :=
    moveFile_staged entry noDirectory fits
  have asked : Action.ask (fun store here => passingPlace world.names store here target) world =
      (.ok passing, world) :=
    Action.ask_eq_ok_iff.mpr ⟨fits, rfl⟩
  have created : plan.perform [.create] world = (.ok (), _) :=
    Action.bind_of_ok (Action.change_of_ok grants rfl) _
  have steps : Stage.all.tail.foldlM (fun store stage => stage.step plan store world.here)
      (world.store.insert passing (.file ownerMode [])) = .ok _ :=
    calc Stage.all.tail.foldlM (fun store stage => stage.step plan store world.here)
          (world.store.insert passing (.file ownerMode []))
        = (plan.staged world.store).moveFile world.here passing target >>= pure := rfl
      _ = .ok _ := by
          rw [moves]
          rfl
  have granted := grants.tail (world.store.insert passing (.file ownerMode []))
  obtain ⟨after, others, -⟩ := exists_perform plan Stage.all.tail granted steps
  refine ⟨after, (Action.bind_of_ok (Action.get_apply world) _).trans ?_⟩
  refine (Action.bind_of_ok (Action.withCause_eq_ok_iff.mpr asked) _).trans ?_
  refine (Action.bind_of_ok (Action.withCause_eq_ok_iff.mpr created) _).trans ?_
  exact Action.tryCatch_of_ok others _

namespace AtomicWrite

/-- The folder of a target is reached through places that the target passes before its end. -/
theorem trailOf_folder_subset (store : Store) (here : Place) (target : Path) :
    store.trailOf here (folder target) true ⊆ store.way here target := by
  have stays : store.trailOf here Path.dot true = [] := rfl
  unfold folder
  split
  · rename_i parent isParent
    split
    · rw [stays]
      exact List.nil_subset _
    · rename_i filled
      exact Store.trailOf_parent_subset isParent (by simpa using filled) store here
  · rw [stays]
    exact List.nil_subset _

end AtomicWrite

/-! ## Writing again -/

/-- Holds if a path ends at something that is no directory, in an entry that it does not pass before
its end, and the passing file of a write to it has a place. -/
structure Rewritable (store : Store) (here : Place) (target : Path) (place : Place) : Prop where
  entry : ∃ directory name, place = name :: directory ∧
    store.EntryAt here target directory name
  ahead : place ∉ store.way here target
  standing : ∃ held, store.look place = some held ∧ held ≠ .directory
  room : ∃ above, AtomicWrite.HasRoom store here target above

namespace Rewritable

variable {store : Store} {here : Place} {target : Path} {place : Place}

/-- A path that reads a text is rewritable if there is room for a passing file. -/
theorem of_readText
    {directory : Place}
    {name : Name}
    (entry : store.EntryAt here target directory name)
    {text : String}
    (reads : store.readText here target = .ok text)
    {above : Place}
    (room : AtomicWrite.HasRoom store here target above) :
    Rewritable store here target (name :: directory) := by
  obtain ⟨found, held, noDirectory, arrives⟩ := Store.exists_walk_of_readText reads
  have onTrail : name :: directory ∈ store.trailOf here target true := by
    apply (Store.trailOf_false_isPrefix store here target).subset
    rw [entry.trailOf_false]
    simp
  obtain ⟨node, standing⟩ := Option.ne_none_iff_exists'.mp
    (Store.trail_standing arrives _ onTrail)
  refine ⟨⟨directory, name, rfl, entry⟩, entry.ahead_of_readText reads, ⟨node, standing, ?_⟩,
    above, room⟩
  rintro rfl
  rw [entry.walk_of_look standing (by simp)] at arrives
  cases arrives
  exact noDirectory rfl

variable (rewritable : Rewritable store here target place)

include rewritable

theorem apart (other : Place) (onWay : other ∈ store.way here target) : other ∉ [place] := by
  intro isPlace
  rw [List.mem_singleton.mp isPlace] at onWay
  exact rewritable.ahead onWay

theorem named : place ≠ [] := by
  obtain ⟨directory, name, rfl, -⟩ := rewritable.entry
  exact List.cons_ne_nil name directory

/-- A path stays rewritable when its entry is written. -/
theorem insert (mode : Nat) (data : Bytes) :
    Rewritable (store.insert place (.file mode data)) here target place := by
  have grown := Store.grown_insert store rewritable.named (.file mode data)
  obtain ⟨directory, name, isPlace, entry⟩ := rewritable.entry
  obtain ⟨above, room⟩ := rewritable.room
  have sameWay := Store.way_of_grown grown rewritable.apart
  have sameFolder : (store.insert place (.file mode data)).locate here (AtomicWrite.folder target)
      true = store.locate here (AtomicWrite.folder target) true := by
    apply Store.locate_congr
    intro other onTrail
    have offPlace := rewritable.apart other (trailOf_folder_subset store here target onTrail)
    rw [isPlace, Store.look_insert_name, if_neg (by simpa [isPlace] using offPlace)]
  refine ⟨⟨directory, name, isPlace, entry.of_grown grown rewritable.apart⟩, ?_, ?_, ?_⟩
  · rw [sameWay]
    exact rewritable.ahead
  · exact ⟨_, Store.look_insert_self store rewritable.named _, by simp⟩
  · exact ⟨above, room.short, sameFolder.trans room.located⟩

/-- The path reads the file in its entry. -/
theorem read
    {mode : Nat}
    {data : Bytes}
    (held : store.look place = some (.file mode data)) :
    store.read here target = .ok data := by
  obtain ⟨directory, name, rfl, entry⟩ := rewritable.entry
  have located := entry.locate_of_look held (by simp) true
  unfold Store.read
  rw [Store.node_of_locate located]
  rfl

theorem readText
    {mode : Nat}
    {text : String}
    (held : store.look place = some (.file mode (Utf8.encode text))) :
    store.readText here target = .ok text := by
  obtain ⟨directory, name, rfl, entry⟩ := rewritable.entry
  exact entry.readText held

omit rewritable in
theorem exists_writeAtomic
    {world : World}
    (rewritable : Rewritable world.store world.here target place)
    (grants : Action.Grants world 5)
    (data : Bytes)
    (mode : Nat) :
    ∃ after, writeAtomic target data mode world = (.ok (), after) ∧
      after.here = world.here ∧ after.store = world.store.insert place (.file mode data) := by
  obtain ⟨directory, name, rfl, entry⟩ := rewritable.entry
  obtain ⟨held, standing, noDirectory⟩ := rewritable.standing
  obtain ⟨above, room⟩ := rewritable.room
  have fits : passingPlace world.names world.store world.here target = .ok _ :=
    passingPlace_eq_ok_iff.mpr ⟨above, room, rfl⟩
  have entryFree : world.store.look (name :: directory) ≠ some .directory := by
    rw [standing]
    exact fun isDirectory => noDirectory (Option.some.inj isDirectory)
  obtain ⟨after, written⟩ := writeAtomic_of_entryAt entry entryFree fits grants data mode
  obtain ⟨_, _, other, sameHere, made⟩ := writeAtomic_eq_insert written
  rw [Option.some.inj (other.entryOf_eq.symm.trans entry.entryOf_eq)] at made
  exact ⟨after, written, sameHere, made⟩

omit rewritable in
/-- A write to a rewritable path succeeds unless the system refuses it, and changes nothing but the
entry of the path. -/
theorem exists_writeAtomicWithin
    {world : World}
    (rewritable : Rewritable world.store world.here target place)
    (grants : Action.Grants world 6)
    (data : Bytes)
    (mode : Nat) :
    ∃ after, writeAtomicWithin target data mode world = (.ok (), after) ∧
      after.here = world.here ∧ after.store = world.store.insert place (.file mode data) := by
  have granted := grants.mono (Nat.le_succ 5)
  unfold writeAtomicWithin
  cases isParent : target.parent? with
  | none => exact rewritable.exists_writeAtomic granted data mode
  | some parent =>
      by_cases filled : parent = []
      · subst filled
        exact rewritable.exists_writeAtomic granted data mode
      · obtain ⟨above, room⟩ := rewritable.room
        have located := room.located
        have isFolder : AtomicWrite.folder target = parent := by
          unfold AtomicWrite.folder
          rw [isParent]
          simp [filled]
        rw [isFolder] at located
        obtain ⟨others, isPath⟩ := Path.exists_ancestors_eq_cons parent
        have made : makeDirectories parent.ancestors world =
            (.ok (), { world with refusals := world.refusals.tail }) := by
          rw [isPath]
          exact makeDirectories_of_directory filled located grants others
        have stillRewritable : Rewritable
            { world with refusals := world.refusals.tail }.store world.here target place :=
          rewritable
        obtain ⟨after, written, kept⟩ :=
          stillRewritable.exists_writeAtomic (grants.tail world.store) data mode
        exact ⟨after, (Action.bind_of_ok made _).trans written, kept⟩

end Rewritable

/-- A file that was read and then written can be written again. -/
theorem rewritable_of_writeAtomicWithin
    {target : Path}
    {data : Bytes}
    {mode : Nat}
    {world after : World}
    {result : Unit}
    {text : String}
    (reads : world.store.readText world.here target = .ok text)
    (succeeds : writeAtomicWithin target data mode world = (.ok result, after)) :
    after.here = world.here ∧ ∃ place, Rewritable after.store after.here target place ∧
      after.store.look place = some (.file mode data) := by
  obtain ⟨between, ⟨sameHere, grew⟩, written⟩ := writeAtomicWithin_eq_writeAtomic succeeds
  obtain ⟨passing, fits, -⟩ := writeAtomic_eq_perform written
  obtain ⟨above, room, -⟩ := passingPlace_eq_ok_iff.mp fits
  obtain ⟨directory, name, entry, afterHere, made⟩ := writeAtomic_eq_insert written
  have stillReads : between.store.readText between.here target = .ok text := by
    rw [sameHere]
    exact Store.readText_of_grown grew (by simp) reads
  have rewritable := Rewritable.of_readText entry stillReads room
  refine ⟨afterHere.trans sameHere, name :: directory, ?_, ?_⟩
  · rw [made, afterHere]
    exact rewritable.insert mode data
  · rw [made]
    exact Store.look_insert_self between.store rewritable.named _

end SealedEnv
