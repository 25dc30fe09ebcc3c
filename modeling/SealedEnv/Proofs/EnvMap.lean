import Mathlib.Data.List.Nodup
import SealedEnv.EnvMap

/-!
Contract: what a map holds after pairs were set one after the other.

Owns:
- the entries of a map as what look-up finds;
- look-up in the map of a list of pairs, which is look-up of the last pair of a key;
- `override`, a map over another one, and the map of pairs that follow others;
- the map of pairs in which one key was given a new value in place.

Does not own: where the pairs come from.
-/

namespace SealedEnv.EnvMap

/-! ## Entries -/

theorem findEntry_of_mem
    {entries : List (String × String)}
    (ordered : entries.Pairwise fun left right => left.1 < right.1)
    {entry : String × String}
    (member : entry ∈ entries) :
    findEntry entry.1 entries = some entry.2 := by
  induction entries with
  | nil => simp at member
  | cons head rest inductionHypothesis =>
      obtain ⟨below, restOrdered⟩ := List.pairwise_cons.mp ordered
      rw [findEntry]
      rcases List.mem_cons.mp member with isHead | inRest
      · rw [if_pos (congrArg Prod.fst isHead), isHead]
      · have different : entry.1 ≠ head.1 := fun same =>
          String.lt_irrefl head.1 (same ▸ below entry inRest)
        rw [if_neg different, inductionHypothesis restOrdered inRest]

theorem mem_of_findEntry
    {key value : String}
    {entries : List (String × String)}
    (found : findEntry key entries = some value) :
    (key, value) ∈ entries := by
  induction entries with
  | nil => simp [findEntry] at found
  | cons head rest inductionHypothesis =>
      rw [findEntry] at found
      split at found
      · rename_i same
        cases found
        simp [same]
      · exact List.mem_cons_of_mem head (inductionHypothesis found)

theorem mem_entries_iff (map : EnvMap) (entry : String × String) :
    entry ∈ map.entries ↔ map.get? entry.1 = some entry.2 :=
  ⟨findEntry_of_mem map.ordered, mem_of_findEntry⟩

theorem mem_keys_iff (map : EnvMap) (key : String) :
    key ∈ map.keys ↔ ∃ value, map.get? key = some value := by
  unfold keys
  rw [List.mem_map]
  constructor
  · rintro ⟨entry, member, rfl⟩
    exact ⟨entry.2, (map.mem_entries_iff entry).mp member⟩
  · rintro ⟨value, found⟩
    exact ⟨(key, value), (map.mem_entries_iff (key, value)).mpr found, rfl⟩

theorem contains_eq_true_iff (map : EnvMap) (key : String) :
    map.contains key = true ↔ key ∈ map.keys := by
  rw [mem_keys_iff, contains, Option.isSome_iff_exists]

theorem isEmpty_eq_true_iff (map : EnvMap) : map.isEmpty = true ↔ map = .empty := by
  obtain ⟨entries, ordered⟩ := map
  simp [isEmpty, empty]

theorem pairwise_keys (map : EnvMap) : map.keys.Pairwise (· < ·) :=
  List.pairwise_map.mpr map.ordered

/-! ## Maps of pairs -/

@[simp] theorem insertAll_cons (map : EnvMap) (pair : String × String)
    (rest : List (String × String)) :
    map.insertAll (pair :: rest) = (map.insert pair.1 pair.2).insertAll rest :=
  rfl

theorem insertAll_append (map : EnvMap) (left right : List (String × String)) :
    map.insertAll (left ++ right) = (map.insertAll left).insertAll right :=
  List.foldl_append

/-- The last pair of a key counts, and without one the map that was there before. -/
theorem get?_insertAll (map : EnvMap) (pairs : List (String × String)) (key : String) :
    (map.insertAll pairs).get? key = (pairs.reverse.lookup key).or (map.get? key) := by
  induction pairs generalizing map with
  | nil => rfl
  | cons pair rest inductionHypothesis =>
      rw [insertAll_cons, inductionHypothesis, get?_insert, List.reverse_cons, List.lookup_append]
      obtain ⟨held, value⟩ := pair
      by_cases isKey : key = held
      · simp [isKey]
      · simp [List.lookup_cons, beq_eq_false_iff_ne.mpr isKey, isKey]

/-- The map of pairs gives each key the value of its last pair. -/
theorem get?_ofList (pairs : List (String × String)) (key : String) :
    (ofList pairs).get? key = pairs.reverse.lookup key := by
  unfold ofList
  rw [get?_insertAll, get?_empty, Option.or_none]

theorem lookup_eq_some_iff_mem
    {Key Value : Type}
    [BEq Key]
    [LawfulBEq Key]
    {pairs : List (Key × Value)}
    (distinct : (pairs.map Prod.fst).Nodup)
    {key : Key}
    {value : Value} :
    pairs.lookup key = some value ↔ (key, value) ∈ pairs := by
  induction pairs with
  | nil => simp
  | cons head rest inductionHypothesis =>
      obtain ⟨held, old⟩ := head
      obtain ⟨notAgain, restDistinct⟩ := List.nodup_cons.mp distinct
      by_cases isHead : key = held
      · subst isHead
        have notInRest : (key, value) ∉ rest := by
          intro member
          exact notAgain (List.mem_map.mpr ⟨(key, value), member, rfl⟩)
        rw [List.lookup_cons_self, List.mem_cons, or_iff_left notInRest]
        simp [eq_comm]
      · have differs : (key == held) = false := beq_eq_false_iff_ne.mpr isHead
        rw [List.lookup_cons, differs, inductionHypothesis restDistinct, List.mem_cons]
        simp [isHead]

/-- With distinct keys the map holds just the pairs. -/
theorem get?_ofList_eq_some_iff
    {pairs : List (String × String)}
    (distinct : (pairs.map Prod.fst).Nodup)
    {key value : String} :
    (ofList pairs).get? key = some value ↔ (key, value) ∈ pairs := by
  have backward : (pairs.reverse.map Prod.fst).Nodup := by
    rw [List.map_reverse]
    exact List.pairwise_reverse.mpr (distinct.imp Ne.symm)
  rw [get?_ofList, lookup_eq_some_iff_mem backward, List.mem_reverse]

theorem nodup_keys (map : EnvMap) : (map.entries.map Prod.fst).Nodup := by
  refine map.pairwise_keys.imp ?_
  intro left right below same
  exact String.lt_irrefl right (same ▸ below)

/-- A key has one entry. -/
theorem filter_entries_of_get?
    {map : EnvMap}
    {key value : String}
    (found : map.get? key = some value) :
    map.entries.filter (fun entry => entry.1 = key) = [(key, value)] := by
  have member : (key, value) ∈ map.entries := (map.mem_entries_iff _).mpr found
  have once : map.entries.count (key, value) = 1 :=
    List.count_eq_one_of_mem (.of_map Prod.fst map.nodup_keys) member
  have isEntry : ∀ entry ∈ map.entries, decide (entry.1 = key) = (entry == (key, value)) := by
    intro entry held
    rw [Bool.eq_iff_iff, decide_eq_true_iff, beq_iff_eq]
    constructor
    · rintro rfl
      have other := (map.mem_entries_iff entry).mp held
      rw [found] at other
      rw [Option.some.inj other]
    · rintro rfl
      rfl
  rw [List.filter_congr isEntry, List.filter_beq, once, List.replicate_one]

/-- A map is the map of its entries. -/
theorem ofList_entries (map : EnvMap) : ofList map.entries = map := by
  apply ext
  intro key
  apply Option.ext
  intro value
  rw [get?_ofList_eq_some_iff map.nodup_keys, mem_entries_iff]

theorem mem_keys_ofList_iff (pairs : List (String × String)) (key : String) :
    key ∈ (ofList pairs).keys ↔ key ∈ pairs.map Prod.fst := by
  rw [mem_keys_iff, get?_ofList, ← Option.isSome_iff_exists, List.lookup_isSome_iff, List.mem_map]
  constructor
  · rintro ⟨pair, member, same⟩
    exact ⟨pair, List.mem_reverse.mp member, (beq_iff_eq.mp same).symm⟩
  · rintro ⟨pair, member, same⟩
    exact ⟨pair, List.mem_reverse.mpr member, beq_iff_eq.mpr same.symm⟩

theorem get?_ofList_map
    (valueOf : String → String)
    (keys : List String)
    (key : String) :
    (ofList (keys.map fun key => (key, valueOf key))).get? key =
      if key ∈ keys then some (valueOf key) else none := by
  rw [get?_ofList, ← List.map_reverse]
  by_cases member : key ∈ keys
  · rw [if_pos member, List.lookup_graph valueOf (List.mem_reverse.mpr member)]
  · rw [if_neg member, List.lookup_eq_none_iff]
    intro pair inPairs
    obtain ⟨other, inKeys, rfl⟩ := List.mem_map.mp inPairs
    simp only [bne_iff_ne, ne_eq]
    intro same
    exact member (same ▸ List.mem_reverse.mp inKeys)

/-! ## Maps over others -/

/-- A map with the entries of another one, which take precedence. -/
def override (map later : EnvMap) : EnvMap := map.insertAll later.entries

@[simp] theorem get?_override (map later : EnvMap) (key : String) :
    (map.override later).get? key = (later.get? key).or (map.get? key) := by
  unfold override
  rw [get?_insertAll, ← get?_ofList, ofList_entries]

theorem ofList_append (left right : List (String × String)) :
    ofList (left ++ right) = (ofList left).override (ofList right) := by
  apply ext
  intro key
  rw [get?_override, get?_ofList, get?_ofList, get?_ofList, List.reverse_append,
    List.lookup_append]

/-- A pair counts if none of the later ones has its key. -/
theorem get?_ofList_append_cons
    {after : List (String × String)}
    {key : String}
    (last : key ∉ after.map Prod.fst)
    (before : List (String × String))
    (value : String) :
    (ofList (before ++ (key, value) :: after)).get? key = some value := by
  have notAfter : after.reverse.lookup key = none := by
    rw [List.lookup_eq_none_iff]
    intro pair member
    rw [bne_iff_ne]
    intro same
    exact last (List.mem_map.mpr ⟨pair, List.mem_reverse.mp member, same.symm⟩)
  rw [get?_ofList, List.reverse_append, List.reverse_cons, List.append_assoc, List.lookup_append,
    notAfter, Option.none_or, List.singleton_append, List.lookup_cons_self]

/-! ## Setting a key in place -/

/-- The pairs with a new value in each pair of the key, and with a new pair at the end if there was
none. -/
def setPairs (key value : String) (pairs : List (String × String)) : List (String × String) :=
  pairs.map (fun pair => if pair.1 = key then (key, value) else pair) ++
    if pairs.any (fun pair => pair.1 = key) then [] else [(key, value)]

/-- Look-up in pairs of which those of one key were given a new value. -/
theorem lookup_map_set (key value : String) (pairs : List (String × String)) (other : String) :
    (pairs.map fun pair => if pair.1 = key then (key, value) else pair).lookup other =
      if other = key then
        if pairs.any (fun pair => pair.1 = key) then some value else none
      else pairs.lookup other := by
  induction pairs with
  | nil => simp
  | cons pair rest inductionHypothesis =>
      obtain ⟨held, old⟩ := pair
      rw [List.map_cons]
      by_cases sets : held = key
      · by_cases asked : other = key
        · simp [sets, asked]
        · simp [sets, asked, List.lookup_cons, inductionHypothesis, beq_eq_false_iff_ne.mpr asked]
      · by_cases asked : other = held
        · simp [sets, asked]
        · have passes : ((held, old) :: rest).any (fun pair => pair.1 = key) =
              rest.any fun pair => pair.1 = key := by
            rw [List.any_cons, decide_eq_false sets, Bool.false_or]
          rw [passes, if_neg sets]
          simp [List.lookup_cons, inductionHypothesis, beq_eq_false_iff_ne.mpr asked]

/-- Setting a key in place sets it in the map, and no other key changes its value. -/
theorem ofList_setPairs (key value : String) (pairs : List (String × String)) :
    ofList (setPairs key value pairs) = (ofList pairs).insert key value := by
  apply ext
  intro other
  unfold setPairs
  rw [get?_insert, get?_ofList, get?_ofList, List.reverse_append, ← List.map_reverse,
    List.lookup_append, lookup_map_set, List.any_reverse]
  by_cases present : (pairs.any fun pair => pair.1 = key) = true
  · simp [present]
  · rw [if_neg present, if_neg present]
    by_cases asked : other = key
    · simp [asked]
    · simp [asked, beq_eq_false_iff_ne.mpr asked]

end SealedEnv.EnvMap
