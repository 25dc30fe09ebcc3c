import SealedEnv.Store.Walk

/-!
Contract: names for new entries.

Owns:
- `NameSource`, which draws the part of a name that makes it new in its directory;
- `NameSource.zeros`, a source that draws zeros, more of them while the name is taken.

Does not own: what is made under a name.
-/

namespace SealedEnv

/-- A source of names for new entries.  A name is drawn once more while it is taken in its
directory, and nothing else is known of what is drawn: the name may occur elsewhere in the store, or
in the path that is written.  A source that gives up is a system that refuses the entry. -/
structure NameSource where
  /-- What follows the start of a name in a directory. -/
  draw : Name → Store → Place → Name
  vacant : ∀ (start : Name) (store : Store) (directory : Place),
    store.look ((start ++ draw start store directory) :: directory) = none
  noSlash : ∀ (start : Name) (store : Store) (directory : Place),
    Path.slash ∉ draw start store directory

namespace NameSource

/-- How many characters are drawn. -/
def width : Nat := 6

/-- A name for a new entry in the directory that a path leads to. -/
def name (source : NameSource) (start : String) (store : Store) (here : Place) (folder : Path) :
    Name :=
  let directory := match store.locate here folder true with
    | .ok (.present directory _) => directory
    | _ => []
  Path.ofText start ++ source.draw (Path.ofText start) store directory

/-! ## Zeros -/

def zerosOf (more : Nat) : Name := List.replicate (width + more) 48

/-- A length that no name of an entry exceeds. -/
def lengthBound (entries : List (Place × Node)) : Nat :=
  entries.foldr (fun entry bound => max (entry.1.headD []).length bound) 0

theorem length_le_lengthBound
    {name : Name}
    {above : Place}
    {node : Node}
    {entries : List (Place × Node)}
    (found : Store.find (name :: above) entries = some node) :
    name.length ≤ lengthBound entries := by
  induction entries with
  | nil => cases found
  | cons entry rest inductionHypothesis =>
      rw [Store.find] at found
      rw [lengthBound, List.foldr_cons]
      split at found
      · rename_i same
        rw [← same]
        exact Nat.le_max_left _ _
      · exact Nat.le_trans (inductionHypothesis found) (Nat.le_max_right _ _)

/-- Tells whether nothing in a directory has the name that ends in so many zeros more. -/
def isFree (start : Name) (store : Store) (directory : Place) (more : Nat) : Bool :=
  (store.look ((start ++ zerosOf more) :: directory)).isNone

/-- A name that is longer than all others is free. -/
theorem isFree_lengthBound (start : Name) (store : Store) (directory : Place) :
    isFree start store directory (lengthBound store.entries) = true := by
  unfold isFree
  cases held : store.look ((start ++ zerosOf (lengthBound store.entries)) :: directory) with
  | none => rfl
  | some node =>
      have long := length_le_lengthBound held
      rw [List.length_append, zerosOf, List.length_replicate, width] at long
      omega

/-- Draws as few zeros as are free, and at least six. -/
def zeros : NameSource where
  draw start store directory :=
    zerosOf (((List.range (lengthBound store.entries + 1)).find?
      (isFree start store directory)).getD 0)
  vacant := by
    intro start store directory
    cases found : (List.range (lengthBound store.entries + 1)).find?
        (isFree start store directory) with
    | some more =>
        have free := List.find?_some found
        unfold isFree at free
        simpa using free
    | none =>
        have taken := List.find?_eq_none.mp found _ (List.mem_range.mpr (Nat.lt_succ_self _))
        exact absurd (isFree_lengthBound start store directory) taken
  noSlash := by
    intro start store directory inside
    have isZero := List.eq_of_mem_replicate inside
    contradiction

end NameSource

end SealedEnv
