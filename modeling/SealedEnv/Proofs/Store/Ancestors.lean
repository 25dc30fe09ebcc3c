import SealedEnv.Proofs.Store.AllOrNothing
import SealedEnv.Proofs.Text.Lines

/-!
Contract: directories that are made for a write stand on the way to its target.

Owns:
- the pieces of the parent of a path, which are first pieces of the path;
- the places at which `makeDirectories` makes directories;
- `LeavesWay`, what a write that makes its directories leaves when it fails.

Does not own: which of the directories are missing.
-/

namespace SealedEnv

open Store

/-! ## Parents -/

namespace Path

theorem ofPieces_pieces (path : Path) : ofPieces path.pieces = path :=
  List.intercalate_splitOn slash

theorem slash_not_mem_of_mem_pieces
    {path : Path}
    {piece : Name}
    (member : piece ∈ path.pieces) :
    slash ∉ piece :=
  Text.not_mem_of_mem_splitOn member

theorem pieces_ofPieces
    {pieces : List Name}
    (noSlash : ∀ piece ∈ pieces, slash ∉ piece)
    (filled : pieces ≠ []) :
    Path.pieces (ofPieces pieces) = pieces :=
  List.splitOn_intercalate slash noSlash filled

theorem trimIdle_isPrefix (pieces : List Name) : trimIdle pieces <+: pieces := by
  unfold trimIdle
  rw [← List.reverse_suffix, List.reverse_reverse]
  exact List.dropWhile_suffix _

/-- A path of two pieces or more is absolute if the first one is empty. -/
theorem isAbsolute_of_pieces
    {path : Path}
    {first second : Name}
    {rest : List Name}
    (shape : path.pieces = first :: second :: rest) :
    path.isAbsolute = first.isEmpty := by
  have noSlash : slash ∉ first :=
    slash_not_mem_of_mem_pieces (by rw [shape]; exact List.mem_cons_self)
  have isPath : path = first ++ slash :: ofPieces (second :: rest) := by
    conv => lhs; rw [← ofPieces_pieces path, shape]
    unfold ofPieces
    rw [List.intercalate_cons_cons]
    simp
  rw [isPath]
  unfold isAbsolute
  cases first with
  | nil => simp
  | cons byte others =>
      have notSlash : byte ≠ slash := fun same => noSlash (by simp [same])
      simp [notSlash]

/-- A part of the front that is not all of it is a part of the front without its last piece. -/
theorem prefix_dropLast
    {pieces front : List Name}
    (isFront : front <+: pieces)
    (shorter : front.length < pieces.length) :
    front <+: pieces.dropLast := by
  apply List.prefix_of_prefix_length_le isFront (List.dropLast_prefix pieces)
  rw [List.length_dropLast]
  omega

/-- Dropping the idle pieces at the end, the last piece that is left and the idle pieces before it
leaves a front of the pieces that is not all of them. -/
theorem trimIdle_dropLast_isPrefix
    {pieces trimmed : List Name}
    (isTrimmed : trimIdle pieces = trimmed)
    (filled : trimmed ≠ []) :
    trimIdle trimmed.dropLast <+: pieces ∧ (trimIdle trimmed.dropLast).length < pieces.length := by
  have inPieces : trimmed <+: pieces := isTrimmed ▸ trimIdle_isPrefix pieces
  refine ⟨((trimIdle_isPrefix _).trans (List.dropLast_prefix _)).trans inPieces, ?_⟩
  have trims := (trimIdle_isPrefix trimmed.dropLast).length_le
  have fits := inPieces.length_le
  have longer := List.length_pos_of_ne_nil filled
  rw [List.length_dropLast] at trims
  omega

/-- The pieces of a parent are first pieces of the path, without the last one, and both paths start
in one place.  Else the parent is empty or the root. -/
theorem parent?_cases
    {path parent : Path}
    (isParent : path.parent? = some parent) :
    parent = [] ∨ parent = [slash] ∨
      (parent.pieces <+: path.pieces.dropLast ∧ parent.isAbsolute = path.isAbsolute) := by
  have clean : ∀ piece ∈ path.pieces, slash ∉ piece := fun _ => slash_not_mem_of_mem_pieces
  unfold parent? at isParent
  split at isParent
  · contradiction
  · rename_i first rest shape
    rw [shape] at clean ⊢
    split at isParent
    · split at isParent <;> cases isParent
      exact .inl rfl
    · rename_i piece more trimmed
      have inRest : piece :: more <+: rest := trimmed ▸ trimIdle_isPrefix rest
      obtain ⟨second, others, isRest⟩ : ∃ second others, rest = second :: others := by
        apply List.exists_cons_of_ne_nil
        rintro rfl
        simp at inRest
      have absolute : path.isAbsolute = first.isEmpty := by
        apply isAbsolute_of_pieces
        rw [shape, isRest]
      rw [absolute]
      split at isParent
      · split at isParent
        · exact .inr (.inl (Option.some.inj isParent).symm)
        · rename_i filled
          have isFirst : parent = first := (Option.some.inj isParent).symm
          have noSlash := clean first List.mem_cons_self
          rw [isFirst]
          refine .inr (.inr ⟨?_, ?_⟩)
          · rw [show Path.pieces first = [first] from List.splitOn_eq_singleton noSlash, isRest]
            simp
          · rw [Bool.eq_false_iff.mpr filled, isAbsolute_of_noSlash noSlash]
      · rename_i isKept
        obtain ⟨inKept, shorter⟩ := trimIdle_dropLast_isPrefix trimmed (List.cons_ne_nil piece more)
        obtain ⟨next, further, kept⟩ := List.exists_cons_of_ne_nil isKept
        rw [kept] at isParent inKept shorter
        have front : first :: next :: further <+: first :: rest :=
          (List.prefix_cons_inj first).mpr inKept
        have isPieces : parent.pieces = first :: next :: further := by
          rw [← Option.some.inj isParent]
          apply pieces_ofPieces _ (List.cons_ne_nil first _)
          exact fun piece member => clean piece (front.subset member)
        refine .inr (.inr ⟨?_, isAbsolute_of_pieces isPieces⟩)
        rw [isPieces]
        exact prefix_dropLast front (by simpa using shorter)

end Path

namespace Store

/-! ## Directories on the way -/

/-- The parent of a path leads through places that the path passes before its last piece. -/
theorem trailOf_parent_subset
    {path parent : Path}
    (isParent : path.parent? = some parent)
    (filled : parent ≠ [])
    (store : Store)
    (here : Place) :
    store.trailOf here parent true ⊆ store.way here path := by
  unfold trailOf way
  rcases Path.parent?_cases isParent with empty | rfl | ⟨front, absolute⟩
  · contradiction
  · have stays : store.trail true linkLimit (linkBase here [Path.slash])
        (Path.pieces [Path.slash]) = [] := rfl
    rw [stays]
    simp
  · obtain ⟨rest, isFront⟩ := front
    have base : linkBase here parent = linkBase here path := by
      unfold linkBase
      rw [absolute]
    rw [base, ← isFront]
    exact (trail_mono (by simp) _ _ _).subset

/-- Holds if a store is another one to which directories were added at some of the given places. -/
def GrownAt (places : List Place) (store after : Store) : Prop :=
  ∀ place, after.look place = store.look place ∨
    (place ∈ places ∧ store.look place = none ∧ after.look place = some .directory)

namespace GrownAt

variable {places : List Place} {store between after : Store}

theorem refl (places : List Place) (store : Store) : GrownAt places store store :=
  fun _ => .inl rfl

theorem grown (grown : GrownAt places store after) : Grown [] store after := by
  intro place _
  rcases grown place with same | ⟨-, made⟩
  · exact .inl same
  · exact .inr made

theorem trans
    (first : GrownAt places store between)
    (second : GrownAt places between after) :
    GrownAt places store after := by
  intro place
  rcases second place with same | ⟨inside, free, made⟩
  · rw [same]
    exact first place
  · rcases first place with same | ⟨-, -, madeBefore⟩
    · exact .inr ⟨inside, same.symm.trans free, made⟩
    · rw [madeBefore] at free
      contradiction

end GrownAt

end Store

/-- Holds if an action, whatever came of it, did no more than add directories on the way to a
path. -/
structure MadeWay (target : Path) (world after : World) : Prop where
  here : after.here = world.here
  stuck : after.stuck = world.stuck
  grown : GrownAt (world.store.way world.here target) world.store after.store

namespace MadeWay

variable {target : Path} {world between after : World}

theorem refl (target : Path) (world : World) : MadeWay target world world :=
  ⟨rfl, rfl, GrownAt.refl _ _⟩

theorem trans
    (first : MadeWay target world between)
    (second : MadeWay target between after) :
    MadeWay target world after := by
  obtain ⟨sameHere, sameStuck, more⟩ := second
  have sameWay : between.store.way between.here target = world.store.way world.here target := by
    rw [first.here]
    exact way_of_grown first.grown.grown (by simp)
  rw [sameWay] at more
  exact ⟨sameHere.trans first.here, sameStuck.trans first.stuck, first.grown.trans more⟩

end MadeWay

/-- Holds of what a write to a path that makes its directories may leave when it fails: directories
on the way to the path, and a file that is stuck where nothing stood, if `added` is such a place. -/
structure LeavesWay (target : Path) (added : Option Place) (world after : World) : Prop where
  here : after.here = world.here
  made : ∀ place ∈ added, place ∈ world.stuck ∧ world.store.look place = none ∧
    ∃ mode data, after.store.look place = some (.file mode data)
  others : ∀ place, place ∉ added → after.store.look place = world.store.look place ∨
    (place ∈ world.store.way world.here target ∧ world.store.look place = none ∧
      after.store.look place = some .directory)

/-- If everything that is new can be taken away, no file is left. -/
theorem LeavesWay.eq_none
    {target : Path}
    {added : Option Place}
    {world after : World}
    (leaves : LeavesWay target added world after)
    (letsGo : Action.LetsGo world) :
    added = none := by
  cases isAdded : added with
  | none => rfl
  | some place =>
      obtain ⟨isStuck, vacant, -⟩ := leaves.made place isAdded
      exact absurd vacant (letsGo place isStuck)

end SealedEnv
