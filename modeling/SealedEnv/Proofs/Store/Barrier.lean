import SealedEnv.Proofs.Store.OwnEntry

/-!
Contract: a file that was put into the entry of a path, and which paths lead to it.

Owns:
- the slot of an entry, and removing what stands there;
- `Barred`, a path with a file on its way: it leads nowhere, and nothing is put at its end or
  removed from it;
- `Puts` and `AddsFile`, stores with a file more, and the ways that stay or are barred;
- `Wrote`, what a write that succeeds did, for which the new file is reached through the path just
  if the path does not pass its own entry before its end;
- `Separate`, what two paths that are written in turn must have to lead to both files.

Does not own: how the file came into the entry.
-/

namespace SealedEnv.Store

variable {store after : Store} {here : Place} {path : Path}

/-! ## Entries -/

namespace EntryAt

variable {directory : Place} {name : Name} (entry : EntryAt store here path directory name)

include entry

theorem slot : store.slot here path = .ok ⟨directory, .named name false⟩ := by
  have filled : name ≠ [] := by
    rintro rfl
    have idle : Path.isIdle [] = true := rfl
    rw [entry.isName.1] at idle
    contradiction
  have body : (path.pieces.reverse.dropWhile List.isEmpty).reverse = path.pieces := by
    rw [entry.last]
    exact pieces_body filled _
  have final : path.pieces.getLast? = some name := by
    rw [entry.last]
    exact List.getLast?_concat
  have arrives : store.reach here path path.pieces.dropLast true =
      .ok (.present directory .directory) := by
    unfold reach
    rw [entry.leads]
    rfl
  have proper : ¬(Path.isIdle name || decide (name = Path.dotDot)) = true := by
    simp [entry.isName.1, entry.isName.2]
  unfold Store.slot
  simp only [entry.valid, body, final, bind, Except.bind, pure, Except.pure, arrives, if_neg proper,
    if_neg (Nat.not_lt.mpr entry.short), Nat.lt_irrefl, decide_false]

/-- A path to an entry that is vacant leads to the vacancy. -/
theorem locate_of_vacant
    (vacant : store.look (name :: directory) = none)
    (follow : Bool) :
    store.locate here path follow = .ok (.absent directory name false) := by
  obtain ⟨left, follows⟩ := walk_append entry.leads
  have alone : ∀ jump, walkWith store follow jump directory [name] =
      .ok (.absent directory name false) := by
    intro jump
    rw [walkWith_name _ _ _ _ entry.isName, if_neg (Nat.not_lt.mpr entry.short), vacant]
    rfl
  have arrives : store.walk follow linkLimit (linkBase here path) path.pieces =
      .ok (.absent directory name false) := by
    rw [entry.last, (follows follow [name] (by simp)).1]
    cases left with
    | zero => exact alone _
    | succ left => exact alone _
  unfold locate reach
  rw [entry.valid, arrives]
  rfl

theorem removable_of_file
    {mode : Nat}
    {data : Bytes}
    (held : store.look (name :: directory) = some (.file mode data)) :
    store.removable here path = .ok (name :: directory) := by
  unfold removable
  simp only [entry.slot, bind, Except.bind, held]
  rfl

/-- The path leads to nothing once its entry is taken away, unless it passes that before its end. -/
theorem locate_erase
    (ahead : name :: directory ∉ store.way here path)
    (follow : Bool) :
    (store.erase (name :: directory)).locate here path follow =
      .ok (.absent directory name false) := by
  have gone : EntryAt (store.erase (name :: directory)) here path directory name := by
    apply entry.of_grown (grown_erase store (List.cons_ne_nil name directory))
    intro passed onWay isEntry
    rw [List.mem_singleton.mp isEntry] at onWay
    exact ahead onWay
  apply gone.locate_of_vacant
  rw [look_erase_name, if_pos rfl]

theorem entryOf_eq : store.entryOf here path = some (name :: directory) := by
  unfold entryOf
  rw [entry.trailOf_false, List.getLast?_concat]

theorem ownAhead_iff : store.OwnAhead here path ↔ name :: directory ∉ store.way here path := by
  unfold OwnAhead
  rw [entry.entryOf_eq, entry.trailOf_false, List.dropLast_concat]
  constructor
  · intro ahead
    exact ahead _ rfl
  · rintro ahead place ⟨⟩
    exact ahead

end EntryAt

/-- What may be removed stands in the entry of the path. -/
theorem exists_entryAt_of_removable
    {place : Place}
    (removes : store.removable here path = .ok place) :
    ∃ directory name, EntryAt store here path directory name := by
  unfold removable at removes
  obtain ⟨⟨directory, tail⟩, arrives, removes⟩ := exists_of_bind_eq_ok removes
  cases tail with
  | root => contradiction
  | dots => contradiction
  | named name slashed =>
      cases slashed with
      | false => exact ⟨directory, name, entryAt_of_slot arrives⟩
      | true =>
          simp only [] at removes
          split at removes <;> contradiction

/-! ## Files on the way -/

/-- Holds of a path with a file on its way, before its end. -/
def Barred (store : Store) (here : Place) (path : Path) : Prop :=
  ∃ place ∈ store.way here path, ∃ mode data, store.look place = some (.file mode data)

namespace Barred

variable (barred : store.Barred here path)

include barred

theorem not_leads (directory : Place) :
    store.walk true linkLimit (linkBase here path) path.pieces.dropLast ≠
      .ok (.present directory .directory) := by
  intro leads
  obtain ⟨place, onWay, mode, data, isFile⟩ := barred
  rcases enters_of_mem_trail leads place onWay with isDirectory | ⟨target, _, _, isLink, -⟩
  · rw [isFile] at isDirectory
    cases isDirectory
  · rw [isFile] at isLink
    cases isLink

theorem not_entryAt (directory : Place) (name : Name) :
    ¬EntryAt store here path directory name :=
  fun entry => barred.not_leads directory entry.leads

theorem walk_ne_present (follow : Bool) (found : Place) (held : Node) :
    store.walk follow linkLimit (linkBase here path) path.pieces ≠ .ok (.present found held) := by
  intro leads
  have split : path.pieces.dropLast ++ [path.pieces.getLast (List.splitOn_ne_nil _ _)] =
      path.pieces :=
    List.dropLast_append_getLast _
  rw [← split] at leads
  obtain ⟨directory, toFront⟩ := exists_walk_prefix (by simp) leads
  exact barred.not_leads directory toFront

/-- A path that is barred leads to nothing. -/
theorem locate_ne_present (follow : Bool) (found : Place) (held : Node) :
    store.locate here path follow ≠ .ok (.present found held) := by
  intro located
  unfold locate at located
  obtain ⟨-, -, arrives⟩ := exists_of_bind_eq_ok located
  exact barred.walk_ne_present follow found held (mapError_eq_ok arrives)

theorem readText_ne_ok (text : String) : store.readText here path ≠ .ok text := by
  intro reads
  obtain ⟨place, held, -, leads⟩ := exists_walk_of_readText reads
  exact barred.walk_ne_present true place held leads

theorem removable_ne_ok (place : Place) : store.removable here path ≠ .ok place := by
  intro removes
  obtain ⟨directory, name, entry⟩ := exists_entryAt_of_removable removes
  exact barred.not_entryAt directory name entry

end Barred

/-! ## Files at the end -/

/-- A file that a path leads to stands at the place where it is found. -/
theorem look_of_locate
    {follow : Bool}
    {found : Place}
    {mode : Nat}
    {data : Bytes}
    (located : store.locate here path follow = .ok (.present found (.file mode data))) :
    store.look found = some (.file mode data) :=
  look_of_walk (by simp) (walk_of_locate located)

theorem node_of_locate
    {follow : Bool}
    {found : Place}
    {held : Node}
    (located : store.locate here path follow = .ok (.present found held)) :
    store.node here path follow = .ok held := by
  unfold node
  rw [located]
  rfl

/-! ## Files that are put somewhere -/

/-- Holds if a store is another one with a file at a place. -/
structure Puts (store : Store) (place : Place) (mode : Nat) (data : Bytes) (after : Store) :
    Prop where
  looks : ∀ other, after.look other =
    if other = place then some (.file mode data) else store.look other

namespace Puts

variable {place : Place} {mode : Nat} {data : Bytes} (puts : Puts store place mode data after)

include puts

theorem held : after.look place = some (.file mode data) := by
  rw [puts.looks, if_pos rfl]

theorem look_other {other : Place} (different : other ≠ place) :
    after.look other = store.look other := by
  rw [puts.looks, if_neg different]

theorem grown : Grown [place] store after := by
  apply grown_of_look_eq
  intro other apart
  exact puts.look_other (by simpa using apart)

/-- The store before the change is as good as one that grew from the store after it. -/
theorem grown_back : Grown [place] after store := by
  apply grown_of_look_eq
  intro other apart
  exact (puts.look_other (by simpa using apart)).symm

/-- Ways that do not pass the file stay as they are. -/
theorem way_eq
    {other : Path}
    (apart : place ∉ store.way here other) :
    after.way here other = store.way here other := by
  apply way_of_grown puts.grown
  intro passed onWay isPlace
  rw [List.mem_singleton.mp isPlace] at onWay
  exact apart onWay

theorem way_eq_of_after
    {other : Path}
    (apart : place ∉ after.way here other) :
    store.way here other = after.way here other := by
  apply way_of_grown puts.grown_back
  intro passed onWay isPlace
  rw [List.mem_singleton.mp isPlace] at onWay
  exact apart onWay

/-- The change keeps every place on a way, or else puts its file on it. -/
theorem mem_way
    {other : Path}
    {passed : Place}
    (onWay : passed ∈ store.way here other) :
    passed ∈ after.way here other ∨ place ∈ after.way here other := by
  by_cases inside : place ∈ after.way here other
  · exact .inr inside
  · rw [puts.way_eq_of_after inside] at onWay
    exact .inl onWay

/-- The file bars every path that passes its place before its end. -/
theorem barred_of_mem
    {other : Path}
    (onWay : place ∈ store.way here other) :
    after.Barred here other := by
  have stays : place ∈ after.way here other := by
    rcases puts.mem_way onWay with stays | stays <;> exact stays
  exact ⟨place, stays, mode, data, puts.held⟩

/-- A path that is barred stays so. -/
theorem barred
    {other : Path}
    (before : store.Barred here other) :
    after.Barred here other := by
  obtain ⟨passed, onWay, oldMode, oldData, isFile⟩ := before
  rcases puts.mem_way onWay with stays | inside
  · by_cases same : passed = place
    · exact ⟨passed, stays, mode, data, same ▸ puts.held⟩
    · exact ⟨passed, stays, oldMode, oldData, (puts.look_other same).trans isFile⟩
  · exact ⟨place, inside, mode, data, puts.held⟩

/-- An entry whose way does not pass the file is an entry after the change. -/
theorem entryAt_after
    {other : Path}
    {directory : Place}
    {name : Name}
    (entry : EntryAt store here other directory name)
    (apart : place ∉ store.way here other) :
    EntryAt after here other directory name := by
  apply entry.of_grown puts.grown
  intro passed onWay isPlace
  rw [List.mem_singleton.mp isPlace] at onWay
  exact apart onWay

/-- Every entry after the change was one before it, since a way does not go through a file. -/
theorem entryAt_before
    {other : Path}
    {directory : Place}
    {name : Name}
    (entry : EntryAt after here other directory name) :
    EntryAt store here other directory name ∧ place ∉ store.way here other := by
  have offWay : place ∉ after.way here other := by
    intro onWay
    have barred : after.Barred here other := ⟨place, onWay, mode, data, puts.held⟩
    exact barred.not_entryAt directory name entry
  constructor
  · apply entry.of_grown puts.grown_back
    intro passed onWay isPlace
    rw [List.mem_singleton.mp isPlace] at onWay
    exact offWay onWay
  · rw [puts.way_eq_of_after offWay]
    exact offWay

end Puts

/-! ## Files that are added -/

/-- Holds if a store is another one with a file where nothing stood, if `added` is such a place, and
else with nothing more. -/
structure AddsFile (added : Option Place) (store after : Store) : Prop where
  made : ∀ place ∈ added,
    store.look place = none ∧ ∃ mode data, after.look place = some (.file mode data)
  others : ∀ place, place ∉ added → after.look place = store.look place

namespace AddsFile

variable {added : Option Place} (adds : AddsFile added store after)

include adds

theorem exists_puts {place : Place} (isAdded : added = some place) :
    ∃ mode data, Puts store place mode data after := by
  obtain ⟨-, mode, data, held⟩ := adds.made place isAdded
  refine ⟨mode, data, ⟨fun other => ?_⟩⟩
  split_ifs with same
  · rw [same, held]
  · apply adds.others
    rw [isAdded, Option.mem_some_iff]
    exact fun isPlace => same isPlace.symm

theorem look_of_standing
    {place : Place}
    {held : Node}
    (standing : store.look place = some held) :
    after.look place = some held := by
  rw [adds.others place, standing]
  intro isAdded
  rw [(adds.made place isAdded).1] at standing
  contradiction

/-- Nothing stood at the place of the file, so that the way to an entry does not pass it. -/
theorem entryAt
    {directory : Place}
    {name : Name}
    (entry : EntryAt store here path directory name) :
    EntryAt after here path directory name ∧ after.way here path = store.way here path := by
  have grown : Grown added.toList store after := by
    apply grown_of_look_eq
    intro place apart
    exact adds.others place (by simpa using apart)
  have apart : ∀ place ∈ store.way here path, place ∉ added.toList := by
    intro place onWay isAdded
    exact trail_standing entry.leads place onWay (adds.made place (by simpa using isAdded)).1
  exact ⟨entry.of_grown grown apart, way_of_grown grown apart⟩

theorem barred (before : store.Barred here path) : after.Barred here path := by
  cases isAdded : added with
  | none =>
      have grown : Grown [] store after := by
        apply grown_of_look_eq
        intro place _
        exact adds.others place (by simp [isAdded])
      obtain ⟨place, onWay, mode, data, isFile⟩ := before
      rw [← way_of_grown grown (by simp)] at onWay
      exact ⟨place, onWay, mode, data, adds.look_of_standing isFile⟩
  | some place =>
      obtain ⟨mode, data, puts⟩ := adds.exists_puts isAdded
      exact puts.barred before

end AddsFile

/-! ## Writes -/

/-- Holds if a store is another one with a file in the entry of a path. -/
structure Wrote
    (store : Store)
    (here : Place)
    (path : Path)
    (place : Place)
    (mode : Nat)
    (data : Bytes)
    (after : Store) : Prop extends Puts store place mode data after where
  entry : ∃ directory name, place = name :: directory ∧ EntryAt store here path directory name

namespace Wrote

variable {place : Place} {mode : Nat} {data : Bytes}
  (wrote : Wrote store here path place mode data after)

include wrote

theorem entryOf_eq : store.entryOf here path = some place := by
  obtain ⟨directory, name, rfl, entry⟩ := wrote.entry
  exact entry.entryOf_eq

theorem ownAhead_iff : store.OwnAhead here path ↔ place ∉ store.way here path := by
  obtain ⟨directory, name, rfl, entry⟩ := wrote.entry
  exact entry.ownAhead_iff

theorem trailOf_false : store.trailOf here path false = store.way here path ++ [place] := by
  obtain ⟨directory, name, rfl, entry⟩ := wrote.entry
  exact entry.trailOf_false

/-- The path leads to the new file unless it passes its own entry before its end. -/
theorem locate
    (ahead : place ∉ store.way here path)
    (follow : Bool) :
    after.locate here path follow = .ok (.present place (.file mode data)) := by
  obtain ⟨directory, name, rfl, entry⟩ := wrote.entry
  exact (wrote.entryAt_after entry ahead).locate_of_look wrote.held (by simp) follow

/-- Else the new file bars the path to itself. -/
theorem barred_self (passesItself : ¬store.OwnAhead here path) : after.Barred here path := by
  rw [wrote.ownAhead_iff] at passesItself
  exact wrote.barred_of_mem (Decidable.not_not.mp passesItself)

end Wrote

/-- A write that succeeds puts its file into the entry of its target. -/
theorem wrote_of_writeAtomic
    {target : Path}
    {data : Bytes}
    {mode : Nat}
    {world written : World}
    {result : Unit}
    (succeeds : writeAtomic target data mode world = (.ok result, written)) :
    written.here = world.here ∧
      ∃ place, Wrote world.store world.here target place mode data written.store := by
  obtain ⟨directory, name, entry, sameHere, looks⟩ := writeAtomic_eq_ok succeeds
  exact ⟨sameHere, name :: directory, ⟨looks⟩, directory, name, rfl, entry⟩

/-! ## Two writes -/

/-- Holds of two paths that can be written one after the other and then both be read: neither passes
its own entry before its end, and the first one does not pass the entry of the second one. -/
structure Separate (store : Store) (here : Place) (path other : Path) : Prop where
  own : store.OwnAhead here path
  otherOwn : store.OwnAhead here other
  clear : ∀ entry ∈ store.entryOf here other, entry ∉ store.trailOf here path false

section TwoWrites

variable {store between after : Store} {here : Place} {path other : Path} {place entry : Place}
  {mode otherMode : Nat} {data otherData : Bytes}
  (first : Wrote store here path place mode data between)
  (second : Wrote between here other entry otherMode otherData after)

include first second

/-- The second entry is where it was before the first write, and the way to it does not pass the
first file. -/
theorem Wrote.entryAt_second :
    (∃ directory name, entry = name :: directory ∧ EntryAt store here other directory name) ∧
      place ∉ store.way here other := by
  obtain ⟨directory, name, isEntry, entryAfter⟩ := second.entry
  obtain ⟨entryBefore, offWay⟩ := first.entryAt_before entryAfter
  exact ⟨⟨directory, name, isEntry, entryBefore⟩, offWay⟩

theorem Wrote.separate_iff :
    store.Separate here path other ↔ place ∉ store.way here path ∧ entry ∉ store.way here other ∧
      entry ∉ store.way here path ∧ entry ≠ place := by
  obtain ⟨⟨directory, name, rfl, entryBefore⟩, -⟩ := first.entryAt_second second
  rw [← first.ownAhead_iff, ← entryBefore.ownAhead_iff, ← not_or]
  have onTrail : name :: directory ∈ store.trailOf here path false ↔
      name :: directory ∈ store.way here path ∨ name :: directory = place := by
    rw [first.trailOf_false, List.mem_append, List.mem_singleton]
  rw [← onTrail]
  constructor
  · intro separate
    exact ⟨separate.own, separate.otherOwn, separate.clear _ entryBefore.entryOf_eq⟩
  · rintro ⟨own, otherOwn, clear⟩
    refine ⟨own, otherOwn, fun found isEntry => ?_⟩
    cases entryBefore.entryOf_eq.symm.trans isEntry
    exact clear

/-- Two paths that are separate lead to the two files. -/
theorem Wrote.locate_of_separate (separate : store.Separate here path other) (follow : Bool) :
    after.locate here path follow = .ok (.present place (.file mode data)) ∧
      after.locate here other follow = .ok (.present entry (.file otherMode otherData)) := by
  obtain ⟨own, otherOwn, clear, different⟩ := (first.separate_iff second).mp separate
  obtain ⟨-, offWay⟩ := first.entryAt_second second
  rw [← first.way_eq own] at clear
  rw [← first.way_eq offWay] at otherOwn
  refine ⟨?_, second.locate otherOwn follow⟩
  obtain ⟨directory, name, rfl, entryBefore⟩ := first.entry
  have entryBetween := first.entryAt_after entryBefore own
  have held := (second.look_other different.symm).trans first.held
  exact (second.entryAt_after entryBetween clear).locate_of_look held (by simp) follow

/-- Of two paths that are not separate, one leads nowhere after the writes, or the first one leads
to the second file. -/
theorem Wrote.of_not_separate (together : ¬store.Separate here path other) :
    after.Barred here path ∨ after.Barred here other ∨
      ∀ follow, after.locate here path follow =
        .ok (.present entry (.file otherMode otherData)) := by
  obtain ⟨-, offWay⟩ := first.entryAt_second second
  by_cases own : place ∈ store.way here path
  · exact .inl (second.barred (first.barred_of_mem own))
  by_cases clear : entry ∈ store.way here path
  · rw [← first.way_eq own] at clear
    exact .inl (second.barred_of_mem clear)
  by_cases otherOwn : entry ∈ store.way here other
  · rw [← first.way_eq offWay] at otherOwn
    exact .inr (.inl (second.barred_of_mem otherOwn))
  · have same : entry = place := by
      by_contra different
      exact together ((first.separate_iff second).mpr ⟨own, otherOwn, clear, different⟩)
    refine .inr (.inr fun follow => ?_)
    obtain ⟨directory, name, rfl, entryBefore⟩ := first.entry
    have entryBetween := first.entryAt_after entryBefore own
    rw [← first.way_eq own] at clear
    have held := second.held
    rw [same] at held ⊢
    exact (second.entryAt_after entryBetween clear).locate_of_look held (by simp) follow

end TwoWrites

end SealedEnv.Store
