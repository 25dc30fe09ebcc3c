/-!
Contract: finite maps from names to texts, ordered by name.

Owns:
- `EnvMap`, whose entries stand in strictly ascending order of their keys, so that equal maps are
  equal values;
- insertion, look-up, construction from pairs of which the last one of a key wins.

Does not own: which names are valid keys.
-/

namespace SealedEnv

/-- A map from names to texts: its entries in strictly ascending order of names. -/
structure EnvMap where
  entries : List (String × String)
  ordered : entries.Pairwise fun left right => left.1 < right.1
deriving DecidableEq

namespace EnvMap

/-- Puts an entry where its key belongs, in place of one with the same key. -/
def insertEntry (key value : String) : List (String × String) → List (String × String)
  | [] => [(key, value)]
  | entry :: rest =>
    if key < entry.1 then (key, value) :: entry :: rest
    else if key = entry.1 then (key, value) :: rest
    else entry :: insertEntry key value rest

/-- The value beside the first occurrence of a key. -/
def findEntry (key : String) : List (String × String) → Option String
  | [] => none
  | entry :: rest => if key = entry.1 then some entry.2 else findEntry key rest

theorem mem_of_mem_insertEntry
    {key value : String}
    {entry : String × String}
    {entries : List (String × String)}
    (found : entry ∈ insertEntry key value entries) :
    entry = (key, value) ∨ entry ∈ entries := by
  induction entries with
  | nil => simpa [insertEntry] using found
  | cons head rest ih =>
    unfold insertEntry at found
    split at found
    · simpa using found
    · split at found
      · rcases List.mem_cons.1 found with same | inRest
        · exact .inl same
        · exact .inr (List.mem_cons_of_mem _ inRest)
      · rcases List.mem_cons.1 found with same | inRest
        · exact .inr (same ▸ List.mem_cons_self)
        · exact (ih inRest).imp id (List.mem_cons_of_mem _)

theorem lt_of_not_lt_of_ne
    {left right : String}
    (notLess : ¬ left < right)
    (different : left ≠ right) :
    right < left := by
  rcases String.le_total left right with le | le
  · exact absurd (String.le_antisymm le (String.not_lt.1 notLess)) different
  · exact String.not_le.1 fun back => different (String.le_antisymm back le)

theorem pairwise_insertEntry
    (key value : String)
    {entries : List (String × String)}
    (ordered : entries.Pairwise fun left right => left.1 < right.1) :
    (insertEntry key value entries).Pairwise fun left right => left.1 < right.1 := by
  induction entries with
  | nil => simp [insertEntry]
  | cons head rest ih =>
    have ⟨below, restOrdered⟩ := List.pairwise_cons.1 ordered
    unfold insertEntry
    split
    · rename_i less
      refine List.pairwise_cons.2 ⟨fun entry found => ?_, ordered⟩
      rcases List.mem_cons.1 found with same | inRest
      · exact same ▸ less
      · exact String.lt_trans less (below entry inRest)
    · split
      · rename_i same
        exact List.pairwise_cons.2 ⟨fun entry found => same ▸ below entry found, restOrdered⟩
      · rename_i notLess different
        refine List.pairwise_cons.2 ⟨fun entry found => ?_, ih restOrdered⟩
        rcases mem_of_mem_insertEntry found with same | inRest
        · exact same ▸ lt_of_not_lt_of_ne notLess different
        · exact below entry inRest

/-- A look-up after an insertion sees the new value under its key and all else as before. -/
theorem findEntry_insertEntry
    (key value other : String)
    (entries : List (String × String)) :
    findEntry other (insertEntry key value entries) =
      if other = key then some value else findEntry other entries := by
  induction entries with
  | nil => simp [insertEntry, findEntry]
  | cons head rest ih =>
    unfold insertEntry
    split
    · simp [findEntry]
    · split
      · rename_i same
        by_cases isKey : other = key <;> simp [findEntry, isKey, ← same]
      · rename_i different
        by_cases isKey : other = key
        · subst isKey
          simp [findEntry, ih, different]
        · by_cases isHead : other = head.1 <;>
            simp [findEntry, ih, isKey, isHead, Ne.symm different]

def empty : EnvMap := ⟨[], .nil⟩

instance : Inhabited EnvMap := ⟨empty⟩

instance : EmptyCollection EnvMap := ⟨empty⟩

def insert (map : EnvMap) (key value : String) : EnvMap :=
  ⟨insertEntry key value map.entries, pairwise_insertEntry key value map.ordered⟩

def get? (map : EnvMap) (key : String) : Option String := findEntry key map.entries

def contains (map : EnvMap) (key : String) : Bool := (map.get? key).isSome

def keys (map : EnvMap) : List String := map.entries.map Prod.fst

def isEmpty (map : EnvMap) : Bool := map.entries.isEmpty

/-- The map with the given pairs set one after the other. -/
def insertAll (map : EnvMap) (pairs : List (String × String)) : EnvMap :=
  pairs.foldl (fun done pair => done.insert pair.1 pair.2) map

/-- The map of a list of pairs, of which the last one of a key wins. -/
def ofList (pairs : List (String × String)) : EnvMap := insertAll empty pairs

@[simp] theorem get?_empty (key : String) : empty.get? key = none := rfl

@[simp] theorem get?_insert (map : EnvMap) (key value other : String) :
    (map.insert key value).get? other = if other = key then some value else map.get? other :=
  findEntry_insertEntry key value other map.entries

/-- A key that no entry precedes in the order is not found further on. -/
theorem findEntry_eq_none_of_lt
    {key : String}
    {entries : List (String × String)}
    (below : ∀ entry ∈ entries, key < entry.1) :
    findEntry key entries = none := by
  induction entries with
  | nil => rfl
  | cons head rest ih =>
    have less := below head List.mem_cons_self
    have different : key ≠ head.1 := fun same => String.lt_irrefl _ (same ▸ less)
    simp [findEntry, different, ih fun entry found => below entry (List.mem_cons_of_mem _ found)]

theorem entries_eq_of_findEntry_eq
    {left right : List (String × String)}
    (leftOrdered : left.Pairwise fun a b => a.1 < b.1)
    (rightOrdered : right.Pairwise fun a b => a.1 < b.1)
    (same : ∀ key, findEntry key left = findEntry key right) :
    left = right := by
  induction left generalizing right with
  | nil =>
    cases right with
    | nil => rfl
    | cons head rest => simpa [findEntry] using same head.1
  | cons head rest ih =>
    cases right with
    | nil => simpa [findEntry] using same head.1
    | cons other others =>
      have ⟨below, restOrdered⟩ := List.pairwise_cons.1 leftOrdered
      have ⟨otherBelow, othersOrdered⟩ := List.pairwise_cons.1 rightOrdered
      have sameKey : head.1 = other.1 := by
        by_cases equal : head.1 = other.1
        · exact equal
        · exfalso
          by_cases less : head.1 < other.1
          · have missing : findEntry head.1 (other :: others) = none :=
              findEntry_eq_none_of_lt fun entry found => by
                rcases List.mem_cons.1 found with rfl | inRest
                · exact less
                · exact String.lt_trans less (otherBelow entry inRest)
            have := same head.1
            rw [missing] at this
            simp [findEntry] at this
          · have greater := lt_of_not_lt_of_ne less equal
            have missing : findEntry other.1 (head :: rest) = none :=
              findEntry_eq_none_of_lt fun entry found => by
                rcases List.mem_cons.1 found with rfl | inRest
                · exact greater
                · exact String.lt_trans greater (below entry inRest)
            have := same other.1
            rw [missing] at this
            simp [findEntry] at this
      have sameValue : head.2 = other.2 := by
        have := same head.1
        simpa [findEntry, sameKey] using this
      have sameRest : rest = others := by
        refine ih restOrdered othersOrdered fun key => ?_
        by_cases isHead : key = head.1
        · rw [isHead, findEntry_eq_none_of_lt below,
            findEntry_eq_none_of_lt fun entry found => sameKey ▸ otherBelow entry found]
        · have := same key
          simpa [findEntry, isHead, ← sameKey] using this
      rw [sameRest, Prod.ext sameKey sameValue]

/-- Maps that answer every look-up alike are equal. -/
@[ext] theorem ext
    {left right : EnvMap}
    (same : ∀ key, left.get? key = right.get? key) :
    left = right := by
  cases left
  cases right
  congr 1
  exact entries_eq_of_findEntry_eq (by assumption) (by assumption) same

end EnvMap

end SealedEnv
