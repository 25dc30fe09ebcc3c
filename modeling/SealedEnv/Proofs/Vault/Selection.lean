import Mathlib.Data.List.Induction
import Mathlib.Data.List.Sort
import SealedEnv.Proofs.FlatJson.RoundTrip
import SealedEnv.Proofs.Vault.Unseal
import SealedEnv.Proofs.Vault.Verdict

/-!
Contract: unsealing gives the plaintexts of all chosen keys or of none, and its faults are found in
one order.

Owns:
- `Chooses`, the keys that a request stands for and their order;
- `Outcome`, the ways in which the unsealing of chosen keys ends;
- `unsealSource_all_or_nothing`, from the key file to the two forms of the plaintexts.

Does not own: the faults of a single value.
-/

namespace SealedEnv.Vault

/-! ## Which keys, and in which order -/

/-- Elements that are kept at their first places stand in the order of those places. -/
theorem pairwise_idxOf_eraseDups (keys : List String) :
    keys.eraseDups.Pairwise fun left right => keys.idxOf left < keys.idxOf right := by
  -- From the back, since a new last element changes no first place before it.
  induction keys using List.reverseRecOn with
  | nil => exact .nil
  | append_singleton front last inductionHypothesis =>
      have kept : front.eraseDups.Pairwise fun left right =>
          (front ++ [last]).idxOf left < (front ++ [last]).idxOf right := by
        refine inductionHypothesis.imp_of_mem ?_
        intro left right inLeft inRight before
        rw [List.idxOf_append_of_mem (List.mem_eraseDups.mp inLeft),
          List.idxOf_append_of_mem (List.mem_eraseDups.mp inRight)]
        exact before
      rw [List.eraseDups_append]
      by_cases again : last ∈ front
      · have nothingNew : [last].removeAll front = [] := by simp [List.removeAll, again]
        rw [nothingNew, List.eraseDups_nil, List.append_nil]
        exact kept
      · have isNew : [last].removeAll front = [last] := by simp [List.removeAll, again]
        rw [isNew, List.eraseDups_cons, List.filter_nil, List.eraseDups_nil, List.pairwise_append]
        refine ⟨kept, List.pairwise_singleton _ last, ?_⟩
        intro left inLeft right isLast
        have inFront : left ∈ front := List.mem_eraseDups.mp inLeft
        obtain rfl : right = last := List.mem_singleton.mp isLast
        rw [List.idxOf_append_of_mem inFront, List.idxOf_append_of_notMem again]
        exact Nat.lt_add_right _ (List.idxOf_lt_length_of_mem inFront)

/-- Holds of the keys that a request stands for, in their order: of no request the keys of sealed
values, ascending, and else the keys of the request, by their first places in it. -/
inductive Chooses (entries : EnvMap) : List String → List String → Prop where
  | allSealed
      {order : List String}
      (ascending : order.Pairwise (· < ·))
      (members : ∀ key, key ∈ order ↔
        ∃ stored, entries.get? key = some stored ∧ Envelope.isSealed stored = true) :
      Chooses entries [] order
  | asked
      {requested order : List String}
      (filled : requested ≠ [])
      (byFirstPlace : order.Pairwise fun left right =>
        requested.idxOf left < requested.idxOf right)
      (members : ∀ key, key ∈ order ↔ key ∈ requested) :
      Chooses entries requested order

theorem chooses_selection (entries : EnvMap) (requested : List String) :
    Chooses entries requested (selection entries requested) := by
  by_cases filled : requested = []
  · subst filled
    rw [selection_nil]
    refine .allSealed (List.pairwise_map.mpr (entries.ordered.filter _)) fun key => ?_
    constructor
    · intro member
      obtain ⟨entry, kept, rfl⟩ := List.mem_map.mp member
      obtain ⟨held, isSealed⟩ := List.mem_filter.mp kept
      exact ⟨entry.2, (entries.mem_entries_iff entry).mp held, isSealed⟩
    · rintro ⟨stored, found, isSealed⟩
      have held : (key, stored) ∈ entries.entries :=
        (entries.mem_entries_iff (key, stored)).mpr found
      exact List.mem_map_of_mem (List.mem_filter.mpr ⟨held, isSealed⟩)
  · rw [selection_of_ne_nil filled]
    exact .asked filled (pairwise_idxOf_eraseDups requested) fun key => List.mem_eraseDups

namespace Chooses

variable {entries : EnvMap} {requested order : List String}

/-- A request stands for one list of keys. -/
theorem unique
    {other : List String}
    (chooses : Chooses entries requested order)
    (also : Chooses entries requested other) :
    order = other := by
  cases chooses with
  | allSealed ascending members =>
      cases also with
      | allSealed alsoAscending alsoMembers =>
          exact ascending.eq_of_mem_iff alsoAscending fun key =>
            (members key).trans (alsoMembers key).symm
      | asked filled => exact absurd rfl filled
  | asked filled byFirstPlace members =>
      cases also with
      | allSealed => exact absurd rfl filled
      | asked _ alsoByFirstPlace alsoMembers =>
          exact byFirstPlace.eq_of_mem_iff alsoByFirstPlace fun key =>
            (members key).trans (alsoMembers key).symm

theorem eq_selection (chooses : Chooses entries requested order) :
    order = selection entries requested :=
  chooses.unique (chooses_selection entries requested)

theorem nodup (chooses : Chooses entries requested order) : order.Nodup := by
  cases chooses with
  | allSealed ascending => exact ascending.nodup
  | asked _ byFirstPlace => exact byFirstPlace.nodup

/-- Keys that were chosen are chosen again if they are asked for. -/
theorem again
    (chooses : Chooses entries requested order)
    (filled : order ≠ []) :
    Chooses entries order order := by
  refine .asked filled ?_ fun key => Iff.rfl
  rw [List.pairwise_iff_getElem]
  intro left right leftBound rightBound before
  rw [chooses.nodup.idxOf_getElem, chooses.nodup.idxOf_getElem]
  exact before

end Chooses

theorem mem_selection_congr
    (entries : EnvMap)
    {requested other : List String}
    (same : ∀ key, key ∈ other ↔ key ∈ requested)
    (key : String) :
    key ∈ selection entries other ↔ key ∈ selection entries requested := by
  by_cases filled : requested = []
  · subst filled
    have otherEmpty : other = [] :=
      List.eq_nil_iff_forall_not_mem.mpr fun key member => List.not_mem_nil ((same key).mp member)
    rw [otherEmpty]
  · have otherFilled : other ≠ [] := by
      obtain ⟨first, member⟩ := List.exists_mem_of_ne_nil requested filled
      exact List.ne_nil_of_mem ((same first).mpr member)
    rw [selection_of_ne_nil filled, selection_of_ne_nil otherFilled, List.mem_eraseDups,
      List.mem_eraseDups, same]

/-! ## Missing keys -/

theorem mem_missing_iff {entries : EnvMap} {keys : List String} {key : String} :
    key ∈ missing entries keys ↔ key ∈ keys ∧ key ∉ entries.keys := by
  have pairs : ((keys.filter fun key => !entries.contains key).map (·, "")).map Prod.fst =
      keys.filter fun key => !entries.contains key := by
    rw [List.map_map]
    exact List.map_id _
  unfold missing
  rw [EnvMap.mem_keys_ofList_iff, pairs, List.mem_filter, Bool.not_eq_true', ← Bool.not_eq_true,
    EnvMap.contains_eq_true_iff]

theorem pairwise_missing (entries : EnvMap) (keys : List String) :
    (missing entries keys).Pairwise (· < ·) :=
  EnvMap.pairwise_keys _

theorem missing_ne_nil
    {entries : EnvMap}
    {keys : List String}
    {key : String}
    (member : key ∈ keys)
    (absent : key ∉ entries.keys) :
    missing entries keys ≠ [] :=
  List.ne_nil_of_mem (mem_missing_iff.mpr ⟨member, absent⟩)

/-- Which keys are missing does not depend on the order in which they are looked for. -/
theorem missing_congr
    (entries : EnvMap)
    {left right : List String}
    (same : ∀ key, key ∈ left ↔ key ∈ right) :
    missing entries left = missing entries right := by
  refine (pairwise_missing entries left).eq_of_mem_iff (pairwise_missing entries right) ?_
  intro key
  rw [mem_missing_iff, mem_missing_iff, same]

theorem unsealEntries_of_missing
    {entries : EnvMap}
    {requested : List String}
    (someMissing : missing entries (selection entries requested) ≠ [])
    (origin : String)
    (decapsulator : Kem.Decapsulator) :
    unsealEntries origin entries requested decapsulator =
      .error (.missingKeys origin (missing entries (selection entries requested))) := by
  have filled : selection entries requested ≠ [] := by
    intro nothing
    rw [nothing] at someMissing
    exact someMissing rfl
  unfold unsealEntries
  rw [if_neg (by simpa using filled), if_pos (by simpa using someMissing)]

/-! ## Keys one after the other -/

/-- Holds of keys that are opened one after the other up to a certain key, which fails. -/
inductive FailsFirst
    (entries : EnvMap)
    (decapsulator : Kem.Decapsulator)
    (key : String)
    (failure : Failure) :
    List String → Prop where
  | here
      {stored : String}
      {rest : List String}
      (found : entries.get? key = some stored)
      (fails : unsealValue key stored decapsulator = .error failure) :
      FailsFirst entries decapsulator key failure (key :: rest)
  | later
      {earlier plaintext : String}
      {rest : List String}
      (opens : OpensKey entries decapsulator earlier plaintext)
      (first : FailsFirst entries decapsulator key failure rest) :
      FailsFirst entries decapsulator key failure (earlier :: rest)

namespace FailsFirst

variable
  {entries : EnvMap}
  {decapsulator : Kem.Decapsulator}
  {key : String}
  {failure : Failure}
  {keys : List String}

/-- The first failure is that of all the keys. -/
theorem unsealAll_eq (first : FailsFirst entries decapsulator key failure keys) :
    unsealAll entries decapsulator keys = .error failure := by
  induction first with
  | here found fails =>
      rw [unsealAll, found, Option.getD_some, fails]
      rfl
  | later opens _ inductionHypothesis =>
      obtain ⟨stored, held, opened⟩ := opens
      rw [unsealAll, held, Option.getD_some, opened, inductionHypothesis]
      rfl

theorem exists_stored (first : FailsFirst entries decapsulator key failure keys) :
    key ∈ keys ∧ ∃ stored, entries.get? key = some stored ∧
      unsealValue key stored decapsulator = .error failure := by
  induction first with
  | here found fails => exact ⟨List.mem_cons_self, _, found, fails⟩
  | later _ _ inductionHypothesis =>
      exact ⟨List.mem_cons_of_mem _ inductionHypothesis.1, inductionHypothesis.2⟩

end FailsFirst

/-- Keys that are there are all opened, or there is a first one that is not. -/
theorem opens_or_fails
    {entries : EnvMap}
    (decapsulator : Kem.Decapsulator)
    {keys : List String}
    (present : ∀ key ∈ keys, key ∈ entries.keys) :
    (∀ key ∈ keys, ∃ plaintext, OpensKey entries decapsulator key plaintext) ∨
      ∃ key failure, FailsFirst entries decapsulator key failure keys := by
  induction keys with
  | nil => exact .inl fun key member => absurd member List.not_mem_nil
  | cons key rest inductionHypothesis =>
      obtain ⟨stored, found⟩ := (entries.mem_keys_iff key).mp (present key List.mem_cons_self)
      cases unsealed : unsealValue key stored decapsulator with
      | error failure => exact .inr ⟨key, failure, .here found unsealed⟩
      | ok plaintext =>
          have opens : OpensKey entries decapsulator key plaintext := ⟨stored, found, unsealed⟩
          have restPresent : ∀ other ∈ rest, other ∈ entries.keys := fun other member =>
            present other (List.mem_cons_of_mem key member)
          rcases inductionHypothesis restPresent with restOpens | ⟨faulty, failure, first⟩
          · exact .inl (List.forall_mem_cons.mpr ⟨⟨plaintext, opens⟩, restOpens⟩)
          · exact .inr ⟨faulty, failure, .later opens first⟩

theorem exists_givesAll
    {entries : EnvMap}
    {decapsulator : Kem.Decapsulator}
    {keys : List String}
    (opens : ∀ key ∈ keys, ∃ plaintext, OpensKey entries decapsulator key plaintext) :
    ∃ values, GivesAll entries decapsulator keys values := by
  choose! plaintextOf opened using opens
  refine ⟨.ofList (keys.map fun key => (key, plaintextOf key)), ?_, ?_⟩
  · intro key member
    refine ⟨plaintextOf key, ?_, opened key member⟩
    rw [EnvMap.get?_ofList_map, if_pos member]
  · intro key notMember
    rw [EnvMap.get?_ofList_map, if_neg notMember]

theorem GivesAll.congr
    {entries values : EnvMap}
    {decapsulator : Kem.Decapsulator}
    {keys other : List String}
    (gives : GivesAll entries decapsulator keys values)
    (same : ∀ key, key ∈ other ↔ key ∈ keys) :
    GivesAll entries decapsulator other values where
  opens := fun key member => gives.opens key ((same key).mp member)
  noOther := fun key absent => gives.noOther key fun member => absent ((same key).mpr member)

/-- Ascending keys are all the keys of what is given for them. -/
theorem GivesAll.keys_eq
    {entries values : EnvMap}
    {decapsulator : Kem.Decapsulator}
    {keys : List String}
    (gives : GivesAll entries decapsulator keys values)
    (ascending : keys.Pairwise (· < ·)) :
    values.keys = keys := by
  refine values.pairwise_keys.eq_of_mem_iff ascending fun key => ?_
  rw [values.mem_keys_iff]
  constructor
  · rintro ⟨plaintext, given⟩
    by_contra absent
    rw [gives.noOther key absent] at given
    contradiction
  · intro member
    obtain ⟨plaintext, given, -⟩ := gives.opens key member
    exact ⟨plaintext, given⟩

/-! ## Outcomes -/

/-- The ways in which the unsealing of chosen keys ends: some of them are missing; or none is, and
the value of one fails after those before it were opened; or they are all opened. -/
inductive Outcome
    (origin : String)
    (entries : EnvMap)
    (decapsulator : Kem.Decapsulator)
    (order : List String) :
    Except Failure Unsealed → Prop where
  | missing
      {absent : List String}
      (someAbsent : absent ≠ [])
      (ascending : absent.Pairwise (· < ·))
      (members : ∀ key, key ∈ absent ↔ key ∈ order ∧ key ∉ entries.keys) :
      Outcome origin entries decapsulator order (.error (.missingKeys origin absent))
  | failed
      {key : String}
      {failure : Failure}
      (present : ∀ key ∈ order, key ∈ entries.keys)
      (first : FailsFirst entries decapsulator key failure order) :
      Outcome origin entries decapsulator order (.error failure)
  | opened
      {values : EnvMap}
      (gives : GivesAll entries decapsulator order values) :
      Outcome origin entries decapsulator order (.ok ⟨order, values⟩)

namespace Outcome

variable
  {origin : String}
  {entries : EnvMap}
  {decapsulator : Kem.Decapsulator}
  {order : List String}

theorem eq_ite
    {result : Except Failure Unsealed}
    (outcome : Outcome origin entries decapsulator order result) :
    result =
      if Vault.missing entries order = [] then
        (unsealAll entries decapsulator order).map fun pairs => ⟨order, .ofList pairs⟩
      else .error (.missingKeys origin (Vault.missing entries order)) := by
  cases outcome with
  | @missing absent someAbsent ascending members =>
      have isMissing : absent = Vault.missing entries order :=
        ascending.eq_of_mem_iff (pairwise_missing entries order) fun key =>
          (members key).trans mem_missing_iff.symm
      rw [← isMissing, if_neg someAbsent]
  | failed present first =>
      rw [if_pos (missing_eq_nil present), first.unsealAll_eq]
      rfl
  | opened gives =>
      rw [if_pos (missing_eq_nil fun _ => gives.present), gives.unsealAll_eq, Except.map,
        gives.ofList_eq]

/-- Chosen keys have one outcome. -/
theorem unique
    {first second : Except Failure Unsealed}
    (isFirst : Outcome origin entries decapsulator order first)
    (isSecond : Outcome origin entries decapsulator order second) :
    first = second := by
  rw [isFirst.eq_ite, isSecond.eq_ite]

end Outcome

theorem outcome_unsealEntries
    (origin : String)
    (entries : EnvMap)
    (requested : List String)
    (decapsulator : Kem.Decapsulator) :
    Outcome origin entries decapsulator (selection entries requested)
      (unsealEntries origin entries requested decapsulator) := by
  by_cases present : ∀ key ∈ selection entries requested, key ∈ entries.keys
  · rcases opens_or_fails decapsulator present with opens | ⟨key, failure, first⟩
    · obtain ⟨values, gives⟩ := exists_givesAll opens
      rw [gives.unsealEntries_eq]
      exact .opened gives
    · rw [unsealEntries_of_present present, first.unsealAll_eq]
      exact .failed present first
  · simp only [not_forall] at present
    obtain ⟨key, chosen, absent⟩ := present
    have someMissing := missing_ne_nil chosen absent
    rw [unsealEntries_of_missing someMissing]
    exact .missing someMissing (pairwise_missing _ _) fun key => mem_missing_iff

/-! ## Requests for the same keys -/

/-- Holds of two results of which the second one has the plaintexts and the missing keys of the
first one, be it in another order. -/
structure Agrees (first second : Except Failure Unsealed) : Prop where
  values : ∀ unsealed, first = .ok unsealed → ∃ order, second = .ok ⟨order, unsealed.values⟩
  missing : ∀ origin absent, first = .error (.missingKeys origin absent) → second = first

theorem unsealValue_ne_missingKeys
    (key stored : String)
    (decapsulator : Kem.Decapsulator)
    (origin : String)
    (absent : List String) :
    unsealValue key stored decapsulator ≠ .error (.missingKeys origin absent) := by
  intro fails
  rcases fault_of_unsealValue fails with ⟨_, isOther⟩ | fault
  · contradiction
  · cases fault

/-- What is given and what is missing does not depend on the order of a request, nor on how often it
names a key. -/
theorem agrees_unsealEntries
    (origin : String)
    (entries : EnvMap)
    (decapsulator : Kem.Decapsulator)
    {requested other : List String}
    (same : ∀ key, key ∈ other ↔ key ∈ requested) :
    Agrees (unsealEntries origin entries requested decapsulator)
      (unsealEntries origin entries other decapsulator) := by
  have sameChosen := mem_selection_congr entries same
  have outcome := outcome_unsealEntries origin entries requested decapsulator
  constructor
  · intro unsealed succeeds
    rw [succeeds] at outcome
    cases outcome with
    | opened gives => exact ⟨_, (gives.congr sameChosen).unsealEntries_eq origin⟩
  · intro place absent fails
    rw [fails] at outcome
    cases outcome with
    | missing someAbsent _ members =>
        obtain ⟨key, member⟩ := List.exists_mem_of_ne_nil absent someAbsent
        obtain ⟨chosen, isAbsent⟩ := (members key).mp member
        rw [unsealEntries_of_missing (missing_ne_nil chosen isAbsent),
          unsealEntries_of_missing (missing_ne_nil ((sameChosen key).mpr chosen) isAbsent),
          missing_congr entries sameChosen]
    -- A value that fails does not report missing keys.
    | failed _ first =>
        obtain ⟨-, stored, -, unsealFails⟩ := first.exists_stored
        exact absurd unsealFails (unsealValue_ne_missingKeys _ _ _ _ _)

/-! ## Printing -/

/-- Holds of plaintexts whose object reads back to them, and whose env lines are their entries, one
for each key in the order of the keys. -/
structure IsPrinted (unsealed : Unsealed) : Prop where
  json : FlatJson.decode? (Utf8.encode unsealed.json) = some unsealed.values
  envLines : ∃ pairs, pairs.map Prod.fst = unsealed.order ∧
    (∀ pair ∈ pairs, unsealed.values.get? pair.1 = some pair.2) ∧
      unsealed.envLines = EnvFile.printAll pairs

theorem GivesAll.isPrinted
    {entries values : EnvMap}
    {decapsulator : Kem.Decapsulator}
    {order : List String}
    (gives : GivesAll entries decapsulator order values) :
    IsPrinted ⟨order, values⟩ where
  json := FlatJson.decode?_encode_feed values
  envLines := by
    have pairs : (order.filterMap fun key => (values.get? key).map (key, ·)) =
        order.map fun key => (key, (values.get? key).getD "") := by
      rw [← List.filterMap_eq_map]
      apply List.filterMap_congr
      intro key member
      obtain ⟨plaintext, given, _⟩ := gives.opens key member
      rw [given, Function.comp_apply, given]
      rfl
    refine ⟨order.map fun key => (key, (values.get? key).getD ""), ?_, ?_, ?_⟩
    · rw [List.map_map]
      exact List.map_id order
    · intro pair member
      obtain ⟨key, inOrder, rfl⟩ := List.mem_map.mp member
      obtain ⟨plaintext, given, _⟩ := gives.opens key inOrder
      rw [given]
      rfl
    · unfold Unsealed.envLines
      rw [pairs]

theorem isPrinted_of_unsealEntries
    {origin : String}
    {entries : EnvMap}
    {requested : List String}
    {decapsulator : Kem.Decapsulator}
    {unsealed : Unsealed}
    (succeeds : unsealEntries origin entries requested decapsulator = .ok unsealed) :
    IsPrinted unsealed := by
  have outcome := outcome_unsealEntries origin entries requested decapsulator
  rw [succeeds] at outcome
  cases outcome with
  | opened gives => exact gives.isPrinted

/-! ## Key file, source, and entries -/

theorem unsealSource_of_keyFault
    {privateKeyPath : Path}
    {world : World}
    {failure : Failure}
    (fails : (loadPrivateKey privateKeyPath world).1 = .error failure)
    (source : Source)
    (requested : List String) :
    unsealSource source privateKeyPath requested world = (.error failure, world) := by
  rw [unsealSource_eq, fails]
  rfl

section Loaded

variable
  {source : Source}
  {privateKeyPath : Path}
  {world : World}
  {decapsulator : Kem.Decapsulator}
  (loads : (loadPrivateKey privateKeyPath world).1 = .ok decapsulator)

include loads

theorem unsealSource_of_sourceFault
    {failure : Failure}
    (fails : (source.entries world).1 = .error failure)
    (requested : List String) :
    unsealSource source privateKeyPath requested world = (.error failure, world) := by
  rw [unsealSource_eq, loads, fails]
  rfl

theorem unsealSource_of_entries
    {entries : EnvMap}
    (held : (source.entries world).1 = .ok entries)
    (requested : List String) :
    unsealSource source privateKeyPath requested world =
      (unsealEntries source.origin entries requested decapsulator, world) := by
  rw [unsealSource_eq, loads, held]
  rfl

end Loaded

/-- Only a file can fail to be read. -/
theorem Source.exists_of_entries_eq_error
    {source : Source}
    {world : World}
    {failure : Failure}
    (fails : (source.entries world).1 = .error failure) :
    ∃ path cause, source = .file path ∧ failure = .envFileUnreadable path.display cause := by
  cases source with
  | map entries => contradiction
  | file path =>
      change ((EnvFile.load path world).1.mapError
        (Failure.envFileUnreadable path.display)) = .error failure at fails
      cases loaded : (EnvFile.load path world).1 with
      | ok entries =>
          rw [loaded] at fails
          contradiction
      | error cause =>
          rw [loaded] at fails
          exact ⟨path, cause, rfl, (Except.error.inj fails).symm⟩

/-- Unsealing changes nothing.  A fault of the key file is reported whatever the source and the
request, and then a source that cannot be read, whatever the request.  Else the request stands for
keys in an order; they are all unsealed, or the missing ones are named, or none is missing and the
first failure is reported.  Asking for just these keys gives the same, and a request that names the
same keys gives the same plaintexts or names the same missing keys. -/
theorem unsealSource_all_or_nothing (source : Source) (privateKeyPath : Path) (world : World) :
    (∃ failure, (loadPrivateKey privateKeyPath world).1 = .error failure ∧
      KeyFileFault privateKeyPath.display failure ∧ ∀ requested,
        unsealSource source privateKeyPath requested world = (.error failure, world)) ∨
    ∃ decapsulator, (loadPrivateKey privateKeyPath world).1 = .ok decapsulator ∧
      ((∃ path cause, source = .file path ∧
        (source.entries world).1 = .error (.envFileUnreadable path.display cause) ∧ ∀ requested,
          unsealSource source privateKeyPath requested world =
            (.error (.envFileUnreadable path.display cause), world)) ∨
      ∃ entries, (source.entries world).1 = .ok entries ∧ ∀ requested,
        let outcome := unsealSource source privateKeyPath requested world
        outcome.2 = world ∧
        (∃ order, Chooses entries requested order ∧
          Outcome source.origin entries decapsulator order outcome.1 ∧
            (order ≠ [] → unsealSource source privateKeyPath order world = outcome)) ∧
        (∀ unsealed, outcome.1 = .ok unsealed → IsPrinted unsealed) ∧
        ∀ other, (∀ key, key ∈ other ↔ key ∈ requested) →
          Agrees outcome.1 (unsealSource source privateKeyPath other world).1) := by
  cases loads : (loadPrivateKey privateKeyPath world).1 with
  | error failure =>
      have fault : KeyFileFault privateKeyPath.display failure := by
        rw [loadPrivateKey_eq] at loads
        exact keyFileFault_of_privateKeyOf loads
      exact .inl ⟨failure, rfl, fault, unsealSource_of_keyFault loads source⟩
  | ok decapsulator =>
      refine .inr ⟨decapsulator, rfl, ?_⟩
      cases held : (source.entries world).1 with
      | error failure =>
          obtain ⟨path, cause, isFile, rfl⟩ := Source.exists_of_entries_eq_error held
          exact .inl ⟨path, cause, isFile, rfl, unsealSource_of_sourceFault loads held⟩
      | ok entries =>
          refine .inr ⟨entries, rfl, fun requested => ?_⟩
          have unsealed := unsealSource_of_entries loads held
          have chooses := chooses_selection entries requested
          simp only [unsealed]
          refine ⟨trivial, ⟨selection entries requested, chooses,
            outcome_unsealEntries _ _ _ _, ?_⟩, ?_, ?_⟩
          · intro filled
            have again := (chooses.again filled).eq_selection
            rw [unsealEntries, unsealEntries, ← again]
          · exact fun opened succeeds => isPrinted_of_unsealEntries succeeds
          · exact fun other same =>
              agrees_unsealEntries source.origin entries decapsulator same

/-! ## A value that opens and one that does not -/

namespace Faulty

open Zeros

def entries : EnvMap := .ofList [("A", sealed "x"), ("B", "OJSTER-1:nocolon")]

theorem get?_first : entries.get? "A" = some (sealed "x") := rfl

theorem get?_second : entries.get? "B" = some "OJSTER-1:nocolon" := rfl

theorem opens_first : unsealValue "A" (sealed "x") (Kem.expandSeed seed) = .ok "x" :=
  (seals (by decide) (.inl rfl)).unsealValue "A"

theorem fails_second : unsealValue "B" "OJSTER-1:nocolon" (Kem.expandSeed seed) =
    .error (.malformedSealedValue "B" "missing separator between ciphertext segments") := by
  have unparsed : Envelope.parse "OJSTER-1:nocolon" = .error .missingSeparator := by decide
  exact unsealValue_of_unparsed _ _ (by decide) unparsed

/-- The first value is opened and then the second one fails. -/
theorem outcome : Outcome "request" entries (Kem.expandSeed seed) ["A", "B"]
    (.error (.malformedSealedValue "B" "missing separator between ciphertext segments")) := by
  have opens : OpensKey entries (Kem.expandSeed seed) "A" "x" :=
    ⟨sealed "x", get?_first, opens_first⟩
  refine .failed ?_ (.later opens (.here get?_second fails_second))
  intro key member
  exact (EnvMap.mem_keys_ofList_iff _ key).mpr member

end Faulty

open Faulty Zeros in
theorem unsealSource_all_or_nothing_faulty :
    unsealSource (.map entries) [107] ["A", "B", "A"] keyWorld =
      (.error (.malformedSealedValue "B" "missing separator between ciphertext segments"),
        keyWorld) := by
  rcases unsealSource_all_or_nothing (.map entries) [107] keyWorld with
    ⟨failure, fails, -⟩ | ⟨decapsulator, loads, ⟨path, cause, isFile, -⟩ | ⟨held, found, unsealed⟩⟩
  · rw [loads_keyWorld] at fails
    contradiction
  · cases isFile
  · obtain rfl := Except.ok.inj (loads_keyWorld.symm.trans loads)
    have isHeld : entries = held := Except.ok.inj found
    subst isHeld
    obtain ⟨unchanged, ⟨order, chooses, ends, -⟩, -⟩ := unsealed ["A", "B", "A"]
    have isOrder : order = ["A", "B"] := by
      rw [chooses.eq_selection, selection_of_ne_nil (List.cons_ne_nil _ _)]
      decide
    rw [isOrder] at ends
    exact Prod.ext (ends.unique outcome) unchanged

end SealedEnv.Vault
