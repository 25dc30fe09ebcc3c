import Mathlib.Data.List.Basic
import SealedEnv.Proofs.Store.Action
import SealedEnv.Proofs.Store.Trail

/-!
Contract: the entry of a directory that a path is the path of.

Owns:
- `EntryAt`, the directory and the name that a path ends with, whether the entry is there or not;
- reading the file in an entry;
- what keeps the entry of a path where it is.

Does not own: how the entry is written.
-/

namespace SealedEnv.Store

/-- The places that a path passes, the last one included. -/
def trailOf (store : Store) (here : Place) (path : Path) (follow : Bool) : List Place :=
  store.trail follow linkLimit (linkBase here path) path.pieces

/-- The places that a path passes before its last piece. -/
def way (store : Store) (here : Place) (path : Path) : List Place :=
  store.trail true linkLimit (linkBase here path) path.pieces.dropLast

/-- Holds if a path ends with a name in a directory that is there. -/
structure EntryAt (store : Store) (here : Place) (path : Path) (directory : Place) (name : Name) :
    Prop where
  valid : checkPath path = .ok ()
  last : path.pieces = path.pieces.dropLast ++ [name]
  isName : IsName name
  short : name.length ≤ nameLimit
  leads : store.walk true linkLimit (linkBase here path) path.pieces.dropLast =
    .ok (.present directory .directory)

/-- The pieces of a path without the empty ones at its end, which slashes leave. -/
def bodyOf (path : Path) : List Name := (path.pieces.reverse.dropWhile List.isEmpty).reverse

theorem bodyOf_isPrefix (path : Path) : bodyOf path <+: path.pieces := by
  unfold bodyOf
  rw [← List.reverse_suffix, List.reverse_reverse]
  exact List.dropWhile_suffix _

/-- A slot under a name is that of the last piece in the directory of the others. -/
theorem slot_eq_named
    {store : Store}
    {here : Place}
    {path : Path}
    {directory : Place}
    {name : Name}
    {slashed : Bool}
    (found : store.slot here path = .ok ⟨directory, .named name slashed⟩) :
    checkPath path = .ok () ∧ (bodyOf path).getLast? = some name ∧
      store.reach here path (bodyOf path).dropLast true = .ok (.present directory .directory) ∧
      IsName name ∧ name.length ≤ nameLimit ∧
      decide ((bodyOf path).length < path.pieces.length) = slashed := by
  unfold slot at found
  obtain ⟨_, valid, found⟩ := exists_of_bind_eq_ok found
  dsimp only at found
  split at found
  case h_1 => cases found
  case h_2 last final =>
    obtain ⟨reached, arrived, found⟩ := exists_of_bind_eq_ok found
    split at found
    case h_1 there =>
      split_ifs at found with dots long
      · cases found
      · cases found
        simp only [Bool.or_eq_true, not_or, decide_eq_true_eq] at dots
        exact ⟨valid, final, arrived, ⟨by simpa using dots.1, dots.2⟩, Nat.le_of_not_lt long, rfl⟩
    all_goals contradiction

/-- A path with a slot that no slashes follow has an entry there. -/
theorem entryAt_of_slot
    {store : Store}
    {here : Place}
    {path : Path}
    {directory : Place}
    {name : Name}
    (found : store.slot here path = .ok ⟨directory, .named name false⟩) :
    EntryAt store here path directory name := by
  obtain ⟨valid, final, arrived, isName, short, noSlashes⟩ := slot_eq_named found
  have whole : bodyOf path = path.pieces :=
    (bodyOf_isPrefix path).eq_of_length_le (Nat.le_of_not_lt (of_decide_eq_false noSlashes))
  rw [whole] at final arrived
  exact
    { valid
      last := (List.dropLast_append_getLast? name final).symm
      isName
      short
      leads := mapError_eq_ok arrived }

theorem way_subset
    {store : Store}
    {here : Place}
    {path : Path}
    (follow : Bool) :
    way store here path ⊆ trailOf store here path follow := by
  unfold way trailOf
  cases shape : path.pieces.getLast? with
  | none =>
      rw [List.getLast?_eq_none_iff.mp shape]
      cases linkLimit <;> simp [trail]
  | some last =>
      conv => rhs; rw [← List.dropLast_append_getLast? last shape]
      exact (trail_mono (by simp) _ _ _).subset

/-- A last link that is not followed adds no place. -/
theorem trailOf_false_isPrefix (store : Store) (here : Place) (path : Path) :
    trailOf store here path false <+: trailOf store here path true := by
  have mono : store.trail false linkLimit (linkBase here path) path.pieces <+:
      store.trail true linkLimit (linkBase here path) (path.pieces ++ []) :=
    trail_mono (by simp) linkLimit (linkBase here path) path.pieces
  rwa [List.append_nil] at mono

namespace EntryAt

variable {store after : Store} {here : Place} {path : Path} {directory : Place} {name : Name}

theorem trailOf_false (entry : EntryAt store here path directory name) :
    trailOf store here path false = way store here path ++ [name :: directory] := by
  obtain ⟨left, follows⟩ := walk_append entry.leads
  have alone : ∀ links, store.trail false links directory [name] = [name :: directory] := by
    intro links
    cases links with
    | zero =>
        rw [trail, trailWith_name _ _ _ _ entry.isName]
        split <;> simp
    | succ links =>
        rw [trail, trailWith_name _ _ _ _ entry.isName]
        split <;> simp
  unfold trailOf way
  conv => lhs; rw [entry.last]
  rw [(follows false [name] (by simp)).2, alone]

/-- A path leads to what stands in its entry unless that leads further. -/
theorem walk_of_look
    (entry : EntryAt store here path directory name)
    {held : Node}
    (standing : store.look (name :: directory) = some held)
    (noLink : ∀ target, held ≠ .link target)
    (follow : Bool) :
    store.walk follow linkLimit (linkBase here path) path.pieces =
      .ok (.present (name :: directory) held) := by
  obtain ⟨left, follows⟩ := walk_append entry.leads
  have alone : ∀ jump, walkWith store follow jump directory [name] =
      .ok (.present (name :: directory) held) := by
    intro jump
    rw [walkWith_name _ _ _ _ entry.isName, if_neg (Nat.not_lt.mpr entry.short), standing]
    cases held with
    | link target => exact absurd rfl (noLink target)
    | _ => rfl
  rw [entry.last, (follows follow [name] (by simp)).1]
  cases left with
  | zero => exact alone _
  | succ left => exact alone _

/-- A path leads to what stands in its entry, whether a link at its end is followed or not, unless
that is a link. -/
theorem locate_of_look
    (entry : EntryAt store here path directory name)
    {held : Node}
    (standing : store.look (name :: directory) = some held)
    (noLink : ∀ target, held ≠ .link target)
    (follow : Bool) :
    store.locate here path follow = .ok (.present (name :: directory) held) := by
  unfold locate reach
  rw [entry.valid, entry.walk_of_look standing noLink]
  rfl

theorem readText
    (entry : EntryAt store here path directory name)
    {mode : Nat}
    {text : String}
    (held : store.look (name :: directory) = some (.file mode (Utf8.encode text))) :
    store.readText here path = .ok text := by
  have located := entry.locate_of_look held (by simp) true
  unfold Store.readText read node
  rw [located]
  simp only [bind, Except.bind, pure, Except.pure, Utf8.decode?_encode]

/-- The way to an entry passes no place that is vacant, or that holds neither a directory nor a
link. -/
theorem apart_of_blocked
    (entry : EntryAt store here path directory name)
    {blocked : Place}
    {held : Option Node}
    (isHeld : store.look blocked = held)
    (noDirectory : held ≠ some .directory)
    (noLink : ∀ target, held ≠ some (.link target)) :
    ∀ place ∈ way store here path, place ∉ [blocked] := by
  intro place onWay isBlocked
  rw [List.mem_singleton.mp isBlocked] at onWay
  obtain ⟨node, standing, kinds⟩ := trail_held entry.leads blocked onWay
  rw [isHeld] at standing
  rcases kinds with rfl | ⟨target, rfl⟩ | ⟨-, rfl⟩
  · exact noDirectory standing
  · exact noLink target standing
  · exact noDirectory standing

theorem of_grown
    (entry : EntryAt store here path directory name)
    {touched : List Place}
    (grown : Grown touched store after)
    (apart : ∀ place ∈ way store here path, place ∉ touched) :
    EntryAt after here path directory name where
  valid := entry.valid
  last := entry.last
  isName := entry.isName
  short := entry.short
  leads := walk_of_grown grown apart entry.leads

end EntryAt

end SealedEnv.Store
