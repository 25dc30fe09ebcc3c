import SealedEnv.Proofs.Store.OwnEntry

/-!
Contract: the passing file of a replacement, from its making to its move, while the store changes
beside it.

Owns:
- `Ready`, what holds of a passing file whatever happens elsewhere;
- what each stage makes of the store, and that it leaves the passing files of others alone.

Does not own: in which order stages of several replacements come.
-/

namespace SealedEnv.AtomicWrite

open Store

/-- The passing file is off the way to the target and stands there, before the move with the new
bytes. -/
structure Ready (store : Store) (here : Place) (plan : AtomicWrite) (left : List Stage) : Prop where
  off : plan.passing ∉ store.trailOf here plan.target true
  standing : ∃ mode data, store.look plan.passing = some (.file mode data)
  filled : left ≠ []
  order : left <:+ Stage.all.tail
  written : left = [.move] → store.look plan.passing = some (.file plan.mode plan.data)

variable {store after : Store} {here : Place} {plan : AtomicWrite}

namespace Ready

variable {left : List Stage} (ready : Ready store here plan left)

include ready

theorem named : plan.passing ≠ [] := by
  obtain ⟨mode, data, standing⟩ := ready.standing
  intro isRoot
  rw [isRoot] at standing
  cases standing

/-- The way to the target does not pass the passing file. -/
theorem apart : ∀ place ∈ store.trailOf here plan.target true, place ∉ [plan.passing] := by
  intro place onTrail isPassing
  rw [List.mem_singleton.mp isPassing] at onTrail
  exact ready.off onTrail

/-- A passing file stays ready if it is left alone and no way to its target passes it. -/
theorem of_untouched
    {touched : List Place}
    (grown : Grown touched store after)
    (untouched : plan.passing ∉ touched)
    (off : plan.passing ∉ after.trailOf here plan.target true) :
    Ready after here plan left := by
  have same : after.look plan.passing = store.look plan.passing := by
    obtain ⟨mode, data, standing⟩ := ready.standing
    rcases grown plan.passing untouched with same | ⟨vacant, -⟩
    · exact same
    · rw [standing] at vacant
      contradiction
  refine ⟨off, ?_, ready.filled, ready.order, ?_⟩
  · rw [same]
    exact ready.standing
  · rw [same]
    exact ready.written

theorem of_grown
    {touched : List Place}
    (grown : Grown touched store after)
    (apart : ∀ place ∈ store.trailOf here plan.target true, place ∉ touched)
    (untouched : plan.passing ∉ touched) :
    Ready after here plan left := by
  apply ready.of_untouched grown untouched
  rw [trailOf_of_grown grown apart]
  exact ready.off

end Ready

/-! ## Stages -/

/-- A new passing file beside a file that is read is ready for the other stages. -/
theorem ready_create
    {names : NameSource}
    {text : String}
    (reads : store.readText here plan.target = .ok text)
    (creates : Stage.create.step plan store here = .ok after)
    (fresh : passingPlace names store here plan.target = .ok plan.passing) :
    Grown [plan.passing] store after ∧ store.look plan.passing = none ∧
      plan.passing ∉ store.trailOf here plan.target true ∧
        Ready after here plan Stage.all.tail := by
  obtain ⟨name, above, isPassing, vacant⟩ := passingPlace_eq_ok fresh
  have named : plan.passing ≠ [] := by
    rw [isPassing]
    exact List.cons_ne_nil name above
  -- Something stands at every place on the way to the file.
  have off : plan.passing ∉ store.trailOf here plan.target true := by
    obtain ⟨found, held, -, arrives⟩ := exists_walk_of_readText reads
    exact fun onTrail => trail_standing arrives plan.passing onTrail vacant
  cases creates
  have grown := grown_insert store named (.file ownerMode [])
  refine ⟨grown, vacant, off, ?_, ?_, by decide, List.suffix_rfl, by simp [Stage.all]⟩
  · rw [trailOf_of_grown grown]
    · exact off
    · intro place onTrail isPassing
      rw [List.mem_singleton.mp isPassing] at onTrail
      exact off onTrail
  · exact ⟨ownerMode, [], look_insert_self store named _⟩

/-- The stages between the making and the move touch nothing but the passing file. -/
theorem Ready.step
    {stage : Stage}
    {left : List Stage}
    (ready : Ready store here plan (stage :: left))
    (filled : left ≠ [])
    (steps : stage.step plan store here = .ok after) :
    Grown [plan.passing] store after ∧ Ready after here plan left := by
  have order : left <:+ Stage.all.tail := (List.suffix_cons stage left).trans ready.order
  have kept : ∀ {changed : Store}, Grown [plan.passing] store changed →
      (∃ mode data, changed.look plan.passing = some (.file mode data)) →
      (left = [.move] → changed.look plan.passing = some (.file plan.mode plan.data)) →
        Grown [plan.passing] store changed ∧ Ready changed here plan left := by
    intro changed grown standing written
    refine ⟨grown, ?_, standing, filled, order, written⟩
    rw [trailOf_of_grown grown ready.apart]
    exact ready.off
  have insertion : ∀ mode data, (left = [.move] → mode = plan.mode ∧ data = plan.data) →
      Grown [plan.passing] store (store.insert plan.passing (.file mode data)) ∧
        Ready (store.insert plan.passing (.file mode data)) here plan left := by
    intro mode data whole
    have stands := look_insert_self store ready.named (.file mode data)
    refine kept (grown_insert store ready.named _) ⟨mode, data, stands⟩ fun last => ?_
    rw [stands, (whole last).1, (whole last).2]
  have shapes := ready.order
  simp only [Stage.all, List.tail_cons, List.suffix_cons_iff, List.cons.injEq,
    List.suffix_nil] at shapes
  rcases shapes with ⟨rfl, rfl⟩ | ⟨rfl, rfl⟩ | ⟨rfl, rfl⟩ | ⟨rfl, rfl⟩ | none
  · cases steps
    exact insertion _ _ (by simp)
  · cases steps
    exact kept (Grown.refl _ _) ready.standing (by simp)
  · cases steps
    exact insertion _ _ fun _ => ⟨rfl, rfl⟩
  · contradiction
  · contradiction

/-- After a move the new text is read at the target, and nothing is on the way to it that was not
there before. -/
theorem Ready.move
    (ready : Ready store here plan [.move])
    {text written : String}
    (reads : store.readText here plan.target = .ok text)
    (isData : plan.data = Utf8.encode written)
    (moves : Stage.move.step plan store here = .ok after) :
    after.readText here plan.target = .ok written ∧
      ∃ entry ∈ store.trailOf here plan.target true,
        Grown [plan.passing, entry] store after ∧
          after.trailOf here plan.target true ⊆ store.trailOf here plan.target true := by
  obtain ⟨directory, name, node, entry, held, rfl⟩ := moveFile_eq_ok moves
  rw [ready.written rfl] at held
  cases held
  have ahead := entry.ahead_of_readText reads
  have onTrail : name :: directory ∈ store.trailOf here plan.target true := by
    apply (trailOf_false_isPrefix store here plan.target).subset
    rw [entry.trailOf_false]
    simp
  have wayApart : ∀ place ∈ store.way here plan.target, place ∉ [plan.passing] :=
    fun place onWay => ready.apart place (way_subset true onWay)
  have erased := grown_erase store ready.named
  have placed := grown_insert (store.erase plan.passing) (List.cons_ne_nil name directory)
    (.file plan.mode plan.data)
  have sameWay := way_of_grown erased wayApart
  have entryApart : ∀ place ∈ (store.erase plan.passing).way here plan.target,
      place ∉ [name :: directory] := by
    intro place onWay isEntry
    rw [sameWay, List.mem_singleton.mp isEntry] at onWay
    exact ahead onWay
  have newEntry := (entry.of_grown erased wayApart).of_grown placed entryApart
  have isFile := look_insert_self (store.erase plan.passing) (List.cons_ne_nil name directory)
    (.file plan.mode plan.data)
  refine ⟨?_, name :: directory, onTrail, ?_, ?_⟩
  · apply newEntry.readText
    rw [isFile, isData]
  · exact (erased.mono (by simp)).trans (placed.mono (by simp))
  · rw [newEntry.trailOf_of_file isFile, way_of_grown placed entryApart, sameWay]
    intro place member
    rcases List.mem_append.mp member with onWay | isEntry
    · exact way_subset true onWay
    · rw [List.mem_singleton.mp isEntry]
      exact onTrail

/-- A move leaves the passing file of another replacement of the same file ready. -/
theorem Ready.of_move
    (ready : Ready store here plan [.move])
    {text written : String}
    (reads : store.readText here plan.target = .ok text)
    (isData : plan.data = Utf8.encode written)
    (moves : Stage.move.step plan store here = .ok after)
    {other : AtomicWrite}
    {left : List Stage}
    (otherReady : Ready store here other left)
    (sameTarget : other.target = plan.target)
    (different : other.passing ≠ plan.passing) :
    Ready after here other left := by
  obtain ⟨-, entry, onTrail, grown, trails⟩ := ready.move reads isData moves
  have off := otherReady.off
  rw [sameTarget] at off
  have notEntry : other.passing ≠ entry := by
    rintro rfl
    exact off onTrail
  apply otherReady.of_untouched grown (by simp [different, notEntry])
  rw [sameTarget]
  exact fun inside => off (trails inside)

end SealedEnv.AtomicWrite
