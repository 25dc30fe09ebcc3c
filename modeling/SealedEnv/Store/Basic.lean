import SealedEnv.Store.IoError
import SealedEnv.Store.Path

/-!
Contract: the tree of files as a table from places to nodes.

Owns:
- `Node`, what may stand at a place;
- `Store`, with look-up, insertion, removal and the names in a directory;
- removals that leave what is stuck;
- the laws of look-up after a change.

Does not own: how a path leads to a place.
-/

namespace SealedEnv

/-- A place in the tree: the names that lead to it, innermost first.  The root is the empty
list. -/
abbrev Place := List Name

def Place.path (place : Place) : Path :=
  if place.isEmpty then [Path.slash]
  else place.reverse.flatMap fun name => Path.slash :: name

inductive Node where
  | directory
  | file (mode : Nat) (data : Bytes)
  | link (target : Path)
  | socket (mode : Nat) (listening : Bool)
  /-- A program that came with the machine. -/
  | program (title : String)
  /-- A device that holds nothing and swallows what is written to it. -/
  | void
deriving DecidableEq

structure Store where
  entries : List (Place × Node)
deriving DecidableEq

namespace Store

def empty : Store := ⟨[]⟩

instance : Inhabited Store := ⟨empty⟩

/-- The node in the first entry of a place. -/
def find (place : Place) : List (Place × Node) → Option Node
  | [] => none
  | entry :: rest => if place = entry.1 then some entry.2 else find place rest

/-- What stands at a place.  The root is always a directory. -/
def look (store : Store) : Place → Option Node
  | [] => some .directory
  | name :: above => find (name :: above) store.entries

/-- Puts a node in the first entry of a place, or in a new entry at the end. -/
def put (place : Place) (node : Node) : List (Place × Node) → List (Place × Node)
  | [] => [(place, node)]
  | entry :: rest =>
    if place = entry.1 then (place, node) :: rest else entry :: put place node rest

def insert (store : Store) (place : Place) (node : Node) : Store :=
  ⟨put place node store.entries⟩

/-- The store with nothing at `place`. -/
def erase (store : Store) (place : Place) : Store :=
  ⟨store.entries.filter fun entry => !decide (place = entry.1)⟩

/-- The store with nothing at `place` or below it. -/
def eraseTree (store : Store) (place : Place) : Store :=
  ⟨store.entries.filter fun entry => !place.isSuffixOf entry.1⟩

/-- The store with nothing at `place` unless that is stuck. -/
def release (store : Store) (stuck : List Place) (place : Place) : Store :=
  if place ∈ stuck then store else store.erase place

/-- Tells whether something stands at a place or below it. -/
def occupied (store : Store) (place : Place) : Bool :=
  store.entries.any fun entry => place.isSuffixOf entry.1

/-- Tells whether something that is stuck stands at a place or below it. -/
def holdsStuck (store : Store) (stuck : List Place) (place : Place) : Bool :=
  store.entries.any fun entry => place.isSuffixOf entry.1 && stuck.contains entry.1

/-- The store with nothing at `root` or below it but what is stuck and the directories that lead
there. -/
def releaseTree (store : Store) (stuck : List Place) (root : Place) : Store :=
  ⟨store.entries.filter fun entry =>
    !root.isSuffixOf entry.1 || store.holdsStuck stuck entry.1⟩

/-- The names in a directory, each once, in the order in which they came. -/
def names (store : Store) (directory : Place) : List Name :=
  (store.entries.filterMap fun
    | (name :: above, _) => if above = directory then some name else none
    | ([], _) => none).eraseDups

theorem find_put (place other : Place) (node : Node) (entries : List (Place × Node)) :
    find other (put place node entries) =
      if other = place then some node else find other entries := by
  induction entries with
  | nil => simp [put, find]
  | cons head rest ih =>
    unfold put
    split
    · rename_i same
      by_cases isPlace : other = place
      · simp [find, isPlace]
      · simp [find, ← same, isPlace]
    · rename_i different
      by_cases isPlace : other = place
      · rw [find, ih, if_pos isPlace, if_pos isPlace, if_neg (isPlace ▸ different)]
      · rw [find, find, ih, if_neg isPlace, if_neg isPlace]

/-- What is kept by its place is found as before, and the rest is not found. -/
theorem find_filter (keeps : Place → Bool) (other : Place) (entries : List (Place × Node)) :
    find other (entries.filter fun entry => keeps entry.1) =
      if keeps other then find other entries else none := by
  induction entries with
  | nil => simp [find]
  | cons head rest ih =>
    by_cases kept : keeps head.1 = true
    · rw [List.filter_cons_of_pos (by simpa using kept), find, find, ih]
      by_cases same : other = head.1
      · rw [if_pos same, if_pos same, if_pos (same ▸ kept)]
      · rw [if_neg same, if_neg same]
    · rw [List.filter_cons_of_neg (by simpa using kept), ih, find]
      by_cases same : other = head.1
      · rw [if_neg (same ▸ kept), if_neg (same ▸ kept)]
      · rw [if_neg same]

/-- What is found at a place is an entry. -/
theorem mem_of_find
    {place : Place}
    {node : Node}
    {entries : List (Place × Node)}
    (found : find place entries = some node) :
    (place, node) ∈ entries := by
  induction entries with
  | nil => simp [find] at found
  | cons head rest ih =>
    rw [find] at found
    split at found
    · rename_i same
      cases found
      simp [same]
    · exact List.mem_cons_of_mem head (ih found)

/-- A place other than the root holds what was put there last. -/
theorem look_insert
    (store : Store)
    (place other : Place)
    (node : Node)
    (notRoot : other ≠ []) :
    (store.insert place node).look other =
      if other = place then some node else store.look other := by
  cases other with
  | nil => contradiction
  | cons name above => exact find_put place (name :: above) node store.entries

/-- A place other than the root is empty after its removal. -/
theorem look_erase
    (store : Store)
    (place other : Place)
    (notRoot : other ≠ []) :
    (store.erase place).look other = if other = place then none else store.look other := by
  cases other with
  | nil => contradiction
  | cons name above =>
    refine (find_filter (fun candidate => !decide (place = candidate)) _ store.entries).trans ?_
    by_cases same : name :: above = place
    · simp [same]
    · simp [look, same, Ne.symm same]

/-- Nothing is found at a place that is not occupied, or below it. -/
theorem look_of_not_occupied
    {store : Store}
    {place other : Place}
    (free : store.occupied place = false)
    (inside : place <:+ other)
    (notRoot : other ≠ []) :
    store.look other = none := by
  cases other with
  | nil => contradiction
  | cons name above =>
    cases found : store.look (name :: above) with
    | none => rfl
    | some node =>
      have occupied : store.occupied place = true :=
        List.any_eq_true.mpr ⟨_, mem_of_find found, List.isSuffixOf_iff_suffix.mpr inside⟩
      rw [free] at occupied
      contradiction

/-- Taking away what was put at an empty place gives the store back. -/
theorem erase_insert
    (store : Store)
    {place : Place}
    (node : Node)
    (free : find place store.entries = none) :
    (store.insert place node).erase place = store := by
  cases store with
  | mk entries =>
    simp only [insert, erase, mk.injEq]
    simp only at free
    induction entries with
    | nil => simp [put]
    | cons head rest ih =>
      have notHead : place ≠ head.1 := fun same => by simp [find, same] at free
      have freeRest : find place rest = none := by simpa [find, notHead] using free
      simp [put, notHead, ih freeRest]

end Store

end SealedEnv
