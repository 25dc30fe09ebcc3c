import SealedEnv.Proofs.Store.AtomicWrite

/-!
Contract: files that are replaced through paths, and what the paths read before and after.

Owns:
- `HoldsText`, a path that reads the file in its own entry;
- `Replaced`, what a write did, as the next reader and the next writer see it;
- `Apart`, paths none of which passes the entry of another one;
- `Sheltered`, a file that no write to another path reaches.

Does not own: what the files are for.
-/

namespace SealedEnv.Store

/-! ## Entries and trails -/

/-- The entry that a path ends with.  What is missing on the way counts as a directory. -/
def entryOf (store : Store) (here : Place) (path : Path) : Option Place :=
  (store.trailOf here path false).getLast?

/-- Holds if a path leads to a file with a text, and does not pass the file before its end. -/
structure HoldsText
    (store : Store)
    (here : Place)
    (path : Path)
    (place : Place)
    (text : String) : Prop where
  entry : ∃ directory name, store.EntryAt here path directory name ∧ place = name :: directory
  ahead : place ∉ store.way here path
  held : ∃ mode, store.look place = some (.file mode (Utf8.encode text))

/-- Where a path leads depends on the places of its trail alone. -/
theorem locate_congr
    {store after : Store}
    {here : Place}
    {path : Path}
    {follow : Bool}
    (same : ∀ place ∈ store.trailOf here path follow, after.look place = store.look place) :
    after.locate here path follow = store.locate here path follow := by
  unfold locate reach
  rw [walk_congr same]

/-- What a path reads depends on the places of its trail alone. -/
theorem readText_congr
    {store after : Store}
    {here : Place}
    {path : Path}
    (same : ∀ place ∈ store.trailOf here path true, after.look place = store.look place) :
    after.readText here path = store.readText here path := by
  unfold readText read node
  rw [locate_congr same]

theorem way_of_grown
    {touched : List Place}
    {store after : Store}
    (grown : Grown touched store after)
    {here : Place}
    {path : Path}
    (apart : ∀ place ∈ store.way here path, place ∉ touched) :
    after.way here path = store.way here path :=
  trail_of_grown grown apart

theorem trailOf_of_grown
    {touched : List Place}
    {store after : Store}
    (grown : Grown touched store after)
    {here : Place}
    {path : Path}
    (apart : ∀ place ∈ store.trailOf here path true, place ∉ touched)
    (follow : Bool) :
    after.trailOf here path follow = store.trailOf here path follow := by
  apply trail_of_grown grown
  intro place member
  cases follow with
  | true => exact apart place member
  | false => exact apart place ((trailOf_false_isPrefix store here path).subset member)

namespace HoldsText

variable {store after : Store} {here : Place} {path : Path} {place : Place} {text : String}

theorem readText (holds : HoldsText store here path place text) :
    store.readText here path = .ok text := by
  obtain ⟨directory, name, entry, rfl⟩ := holds.entry
  obtain ⟨mode, held⟩ := holds.held
  exact entry.readText held

theorem trailOf_false (holds : HoldsText store here path place text) :
    store.trailOf here path false = store.way here path ++ [place] := by
  obtain ⟨directory, name, entry, rfl⟩ := holds.entry
  exact entry.trailOf_false

theorem entryOf_eq (holds : HoldsText store here path place text) :
    store.entryOf here path = some place := by
  unfold entryOf
  rw [holds.trailOf_false, List.getLast?_concat]

theorem of_grown
    (holds : HoldsText store here path place text)
    {touched : List Place}
    (grown : Grown touched store after)
    (wayApart : ∀ other ∈ store.way here path, other ∉ touched)
    (placeApart : place ∉ touched) :
    HoldsText after here path place text where
  entry := by
    obtain ⟨directory, name, entry, shape⟩ := holds.entry
    exact ⟨directory, name, entry.of_grown grown wayApart, shape⟩
  ahead := by
    rw [way_of_grown grown wayApart]
    exact holds.ahead
  held := by
    obtain ⟨mode, held⟩ := holds.held
    rcases grown place placeApart with same | ⟨vacant, _⟩
    · exact ⟨mode, same.trans held⟩
    · rw [held] at vacant
      contradiction

end HoldsText

/-! ## Replacements -/

/-- Holds if a store is another one after directories were added and the entry of a path was
replaced by a file. -/
structure Replaced
    (store : Store)
    (here : Place)
    (path : Path)
    (place : Place)
    (text : String)
    (after : Store) : Prop where
  trail : store.trailOf here path false = store.way here path ++ [place]
  grown : Grown [place] store after
  held : ∃ mode, after.look place = some (.file mode (Utf8.encode text))
  reached : place ∉ store.way here path →
    ∃ directory name, after.EntryAt here path directory name ∧ place = name :: directory

namespace Replaced

variable {store after : Store} {here : Place} {path : Path} {place : Place} {text : String}

theorem entryOf_eq (replaced : Replaced store here path place text after) :
    store.entryOf here path = some place := by
  unfold entryOf
  rw [replaced.trail, List.getLast?_concat]

/-- The new file is read through its path, unless the path passes it before its end. -/
theorem holdsText
    (replaced : Replaced store here path place text after)
    (ahead : place ∉ (store.trailOf here path false).dropLast) :
    HoldsText after here path place text ∧ after.way here path = store.way here path := by
  rw [replaced.trail, List.dropLast_concat] at ahead
  have sameWay : after.way here path = store.way here path := by
    apply way_of_grown replaced.grown
    intro other onWay isPlace
    rw [List.mem_singleton.mp isPlace] at onWay
    exact ahead onWay
  have newHolds : HoldsText after here path place text :=
    { entry := replaced.reached ahead
      ahead := by
        rw [sameWay]
        exact ahead
      held := replaced.held }
  exact ⟨newHolds, sameWay⟩

/-- A file whose path does not pass the new one is still read. -/
theorem holdsText_other
    (replaced : Replaced store here path place text after)
    {other : Path}
    {otherPlace : Place}
    {otherText : String}
    (holds : HoldsText store here other otherPlace otherText)
    (wayApart : place ∉ store.way here other)
    (different : place ≠ otherPlace) :
    HoldsText after here other otherPlace otherText ∧
      after.way here other = store.way here other := by
  have apart : ∀ passed ∈ store.way here other, passed ∉ [place] := by
    intro passed onWay isPlace
    rw [List.mem_singleton.mp isPlace] at onWay
    exact wayApart onWay
  have placeApart : otherPlace ∉ [place] := by
    simpa using different.symm
  exact ⟨holds.of_grown replaced.grown apart placeApart, way_of_grown replaced.grown apart⟩

theorem trailOf_other
    (replaced : Replaced store here path place text after)
    {other : Path}
    (apart : place ∉ store.trailOf here other true)
    (follow : Bool) :
    after.trailOf here other follow = store.trailOf here other follow := by
  apply trailOf_of_grown replaced.grown
  intro passed onTrail isPlace
  rw [List.mem_singleton.mp isPlace] at onTrail
  exact apart onTrail

end Replaced

/-- A store that differs from a grown one in the entry of a path, where it holds a file, is one in
which that entry was replaced. -/
theorem replaced_of_look
    {store between after : Store}
    {here : Place}
    {target : Path}
    {directory : Place}
    {name : Name}
    {mode : Nat}
    {text : String}
    (grew : Grown [] store between)
    (entry : between.EntryAt here target directory name)
    (looks : ∀ place, after.look place =
      if place = name :: directory then some (.file mode (Utf8.encode text))
      else between.look place) :
    Replaced store here target (name :: directory) text after := by
  have sameTrail : between.trailOf here target false = store.trailOf here target false :=
    trailOf_of_grown grew (by simp) false
  have sameWay : between.way here target = store.way here target := way_of_grown grew (by simp)
  have offEntry : Grown [name :: directory] between after := by
    apply grown_of_look_eq
    intro place apart
    rw [looks, if_neg (by simpa using apart)]
  exact
    { trail := by rw [← sameTrail, ← sameWay, entry.trailOf_false]
      grown := (grew.mono (by simp)).trans offEntry
      held := ⟨mode, by rw [looks, if_pos rfl]⟩
      reached := by
        intro ahead
        refine ⟨directory, name, entry.of_grown offEntry ?_, rfl⟩
        intro place onWay isEntry
        rw [List.mem_singleton.mp isEntry, sameWay] at onWay
        exact ahead onWay }

theorem replaced_of_writeAtomicWithin
    {target : Path}
    {text : String}
    {mode : Nat}
    {world after : World}
    {result : Unit}
    (succeeds : writeAtomicWithin target (Utf8.encode text) mode world = (.ok result, after)) :
    after.here = world.here ∧
      ∃ place, Replaced world.store world.here target place text after.store := by
  obtain ⟨between, directory, name, grew, entry, sameHere, looks⟩ :=
    writeAtomicWithin_eq_ok succeeds
  exact ⟨sameHere, name :: directory, replaced_of_look grew entry looks⟩

/-- A write replaces the entry of its target, and whatever does not pass the entry reads as
before. -/
theorem replaced_of_writeAtomic
    {target : Path}
    {text : String}
    {mode : Nat}
    {world after : World}
    {result : Unit}
    (succeeds : writeAtomic target (Utf8.encode text) mode world = (.ok result, after)) :
    after.here = world.here ∧
      ∃ place, Replaced world.store world.here target place text after.store ∧
        ∀ other, place ∉ world.store.trailOf world.here other true →
          after.store.readText world.here other = world.store.readText world.here other := by
  obtain ⟨directory, name, entry, sameHere, looks⟩ := writeAtomic_eq_ok succeeds
  refine ⟨sameHere, name :: directory, replaced_of_look (Grown.refl [] _) entry looks,
    fun other apart => ?_⟩
  apply readText_congr
  intro place onTrail
  rw [looks, if_neg]
  intro isEntry
  rw [isEntry] at onTrail
  exact apart onTrail

/-! ## Paths that are kept apart -/

/-- Holds if a path does not pass the entry of another one. -/
def Avoids (store : Store) (here : Place) (path other : Path) : Prop :=
  ∀ place ∈ store.entryOf here other, place ∉ store.trailOf here path true

/-- Holds if a path does not pass its entry before its end. -/
def OwnAhead (store : Store) (here : Place) (path : Path) : Prop :=
  ∀ place ∈ store.entryOf here path, place ∉ (store.trailOf here path false).dropLast

/-- Holds of different paths none of which passes the entry of another one, or its own before its
end. -/
structure Apart (store : Store) (here : Place) (paths : List Path) : Prop where
  pairwise : paths.Pairwise fun path other =>
    Avoids store here path other ∧ Avoids store here other path
  own : ∀ path ∈ paths, OwnAhead store here path

theorem mem_trailOf_of_entryOf
    {store : Store}
    {here : Place}
    {path : Path}
    {place : Place}
    (entry : store.entryOf here path = some place) :
    place ∈ store.trailOf here path true :=
  (trailOf_false_isPrefix store here path).subset (List.mem_of_getLast? entry)

namespace Replaced

variable {store after : Store} {here : Place} {path : Path} {place : Place} {text : String}

theorem entryOf_other
    (replaced : Replaced store here path place text after)
    {other : Path}
    (apart : place ∉ store.trailOf here other true) :
    after.entryOf here other = store.entryOf here other := by
  unfold entryOf
  rw [replaced.trailOf_other apart]

/-- The paths from which a replaced file is kept apart stay apart from each other. -/
theorem apart
    (replaced : Replaced store here path place text after)
    {others : List Path}
    (apart : Apart store here (path :: others)) :
    Apart after here others := by
  have pairwise := List.pairwise_cons.mp apart.pairwise
  have clear : ∀ other ∈ others, place ∉ store.trailOf here other true := by
    intro other member
    exact (pairwise.1 other member).2 place replaced.entryOf_eq
  have avoids : ∀ other ∈ others, ∀ third ∈ others,
      Avoids store here other third → Avoids after here other third := by
    intro other member third thirdMember before entry isEntry
    rw [replaced.entryOf_other (clear third thirdMember)] at isEntry
    rw [replaced.trailOf_other (clear other member)]
    exact before entry isEntry
  constructor
  · apply pairwise.2.imp_of_mem
    intro other third member thirdMember before
    exact ⟨avoids other member third thirdMember before.1,
      avoids third thirdMember other member before.2⟩
  · intro other member entry isEntry
    rw [replaced.entryOf_other (clear other member)] at isEntry
    rw [replaced.trailOf_other (clear other member)]
    exact apart.own other (List.mem_cons_of_mem path member) entry isEntry

end Replaced

/-! ## Sheltered files -/

/-- Holds if a path reads a file that is not the entry of another path and that is reached without
passing that entry. -/
def Sheltered (store : Store) (here : Place) (path : Path) (text : String) (other : Path) : Prop :=
  ∃ place, HoldsText store here path place text ∧
    ∀ entry ∈ store.entryOf here other, entry ∉ store.way here path ∧ entry ≠ place

namespace Replaced

variable {store after : Store} {here : Place} {path : Path} {place : Place} {text : String}

/-- A replacement leaves the entry of its path where it was. -/
theorem entryOf_after
    (replaced : Replaced store here path place text after)
    (own : OwnAhead store here path) :
    after.entryOf here path = some place ∧ OwnAhead after here path := by
  obtain ⟨holds, sameWay⟩ := replaced.holdsText (own place replaced.entryOf_eq)
  refine ⟨holds.entryOf_eq, fun entry isEntry => ?_⟩
  rw [holds.entryOf_eq] at isEntry
  cases isEntry
  rw [holds.trailOf_false, List.dropLast_concat]
  exact holds.ahead

theorem sheltered
    (replaced : Replaced store here path place text after)
    (own : OwnAhead store here path)
    {other : Path}
    {otherText : String}
    (shelter : Sheltered store here other otherText path) :
    Sheltered after here other otherText path := by
  obtain ⟨otherPlace, holds, clear⟩ := shelter
  obtain ⟨wayApart, different⟩ := clear place replaced.entryOf_eq
  obtain ⟨stillHolds, sameWay⟩ := replaced.holdsText_other holds wayApart different
  refine ⟨otherPlace, stillHolds, fun entry isEntry => ?_⟩
  rw [(replaced.entryOf_after own).1] at isEntry
  cases isEntry
  rw [sameWay]
  exact ⟨wayApart, different⟩

/-- What a path replaced is sheltered from another path if neither passes the entry of the
other. -/
theorem sheltered_own
    (replaced : Replaced store here path place text after)
    (own : OwnAhead store here path)
    {other : Path}
    (avoids : Avoids store here path other)
    (avoided : Avoids store here other path) :
    Sheltered after here path text other := by
  obtain ⟨holds, sameWay⟩ := replaced.holdsText (own place replaced.entryOf_eq)
  refine ⟨place, holds, fun entry isEntry => ?_⟩
  rw [replaced.entryOf_other (avoided place replaced.entryOf_eq)] at isEntry
  have offTrail := avoids entry isEntry
  constructor
  · intro onWay
    rw [sameWay] at onWay
    exact offTrail (way_subset true onWay)
  · intro isPlace
    rw [isPlace] at offTrail
    exact offTrail (mem_trailOf_of_entryOf replaced.entryOf_eq)

/-- A file that is sheltered from the replaced one stays sheltered from a third path that does not
pass it. -/
theorem sheltered_other
    (replaced : Replaced store here path place text after)
    {other third : Path}
    {otherText : String}
    (shelter : Sheltered store here other otherText path)
    (shelterThird : Sheltered store here other otherText third)
    (avoided : Avoids store here third path) :
    Sheltered after here other otherText third := by
  obtain ⟨otherPlace, holds, clear⟩ := shelterThird
  obtain ⟨_, sameHolds, clearPlace⟩ := shelter
  cases Option.some.inj (sameHolds.entryOf_eq.symm.trans holds.entryOf_eq)
  obtain ⟨wayApart, different⟩ := clearPlace place replaced.entryOf_eq
  obtain ⟨stillHolds, sameWay⟩ := replaced.holdsText_other holds wayApart different
  refine ⟨otherPlace, stillHolds, fun entry isEntry => ?_⟩
  rw [replaced.entryOf_other (avoided place replaced.entryOf_eq)] at isEntry
  rw [sameWay]
  exact clear entry isEntry

end Replaced

end SealedEnv.Store
