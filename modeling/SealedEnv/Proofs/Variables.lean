import SealedEnv.Proofs.EnvMap
import SealedEnv.Proofs.Text.Lossy
import SealedEnv.Variables

/-!
Contract: which names are reserved, and what an environment looks like to a program that is handed
it.

Owns:
- the law that a name is reserved by its bytes exactly if it is by its text;
- an environment as a map, in which the last variable of a name counts;
- the handed form of an environment, which has the same map and each name once;
- what is handed on, in that form or as it is.

Does not own: which environment a program is handed.
-/

namespace SealedEnv

/-! ## Reserved names -/

theorem isReserved_eq_false_iff {name : Bytes} :
    isReserved name = false ↔ ¬Utf8.encode reservedStart <+: name := by
  unfold isReserved
  rw [← List.isPrefixOf_iff_prefix, Bool.not_eq_true]

/-- Reading a name as a text, whatever broken stretches it has, neither hides nor makes the start of
a reserved name. -/
theorem isReservedText_eq_isReserved (name : Bytes) : isReservedText name = isReserved name := by
  have allPlain : (reservedStart.toList.all fun c => !Utf8.isForeign c) = true := by decide
  have plain : ∀ c ∈ reservedStart.toList, Utf8.isForeign c = false := by
    intro c member
    simpa using List.all_eq_true.mp allPlain c member
  have spelled : reservedStart.toList.map (fun c => UInt8.ofNat c.toNat) =
      Utf8.encode reservedStart := by decide
  unfold isReservedText isReserved
  rw [Utf8.isPrefixOf_decodeLossy plain, spelled]

namespace Variables

/-! ## Environments as maps -/

/-- The value of a name.  Of several variables of the name the last one counts. -/
def lastValue? (environment : List Variable) (name : Bytes) : Option Bytes :=
  environment.reverse.lookup name

/-- Leaving out names that are not `kept` leaves the values of the others alone. -/
theorem lastValue?_filter (kept : Bytes → Bool) (environment : List Variable) (name : Bytes) :
    lastValue? (environment.filter fun candidate => kept candidate.1) name =
      if kept name then lastValue? environment name else none := by
  unfold lastValue?
  rw [← List.filter_reverse]
  induction environment.reverse with
  | nil => simp
  | cons head rest inductionHypothesis =>
      obtain ⟨held, value⟩ := head
      by_cases asked : name = held
      · subst asked
        cases keeps : kept name with
        | true => simp [keeps]
        | false => simpa [keeps] using inductionHypothesis
      · have passes : (name == held) = false := beq_eq_false_iff_ne.mpr asked
        cases keeps : kept held with
        | true => simpa [keeps, List.lookup_cons, passes] using inductionHypothesis
        | false => simpa [keeps, List.lookup_cons, passes] using inductionHypothesis

/-! ## The handed form -/

theorem mem_insert
    {added candidate : Variable}
    {environment : List Variable}
    (member : candidate ∈ insert added environment) :
    candidate = added ∨ candidate ∈ environment := by
  induction environment with
  | nil => exact .inl (List.mem_singleton.mp member)
  | cons head rest inductionHypothesis =>
      unfold insert at member
      split_ifs at member with before same
      · exact List.mem_cons.mp member
      · rcases List.mem_cons.mp member with isAdded | inRest
        · exact .inl isAdded
        · exact .inr (List.mem_cons_of_mem head inRest)
      · rcases List.mem_cons.mp member with isHead | inserted
        · exact .inr (isHead ▸ List.mem_cons_self)
        · exact (inductionHypothesis inserted).imp id (List.mem_cons_of_mem head)

/-- A variable that is put in has its value, and the others keep theirs, in whatever order the
variables stand. -/
theorem lookup_insert (added : Variable) (environment : List Variable) (name : Bytes) :
    (insert added environment).lookup name =
      if name = added.1 then some added.2 else environment.lookup name := by
  obtain ⟨key, value⟩ := added
  induction environment with
  | nil =>
      by_cases asked : name = key
      · simp [insert, asked]
      · simp [insert, asked, List.lookup_cons, beq_eq_false_iff_ne.mpr asked]
  | cons head rest inductionHypothesis =>
      obtain ⟨held, old⟩ := head
      dsimp only at inductionHypothesis ⊢
      by_cases asked : name = key
      · subst asked
        rw [if_pos rfl] at inductionHypothesis ⊢
        unfold insert
        split_ifs with before same
        · exact List.lookup_cons_self
        · exact List.lookup_cons_self
        · rw [List.lookup_cons, beq_eq_false_iff_ne.mpr same]
          exact inductionHypothesis
      · have passes : (name == key) = false := beq_eq_false_iff_ne.mpr asked
        rw [if_neg asked] at inductionHypothesis ⊢
        unfold insert
        split_ifs with before same
        · rw [List.lookup_cons, passes]
        · have isHead : key = held := same
          rw [List.lookup_cons, List.lookup_cons, ← isHead, passes]
        · rw [List.lookup_cons, List.lookup_cons, inductionHypothesis]

theorem lookup_foldl_insert (environment done : List Variable) (name : Bytes) :
    (environment.foldl (fun done added => insert added done) done).lookup name =
      (lastValue? environment name).or (done.lookup name) := by
  unfold lastValue?
  induction environment generalizing done with
  | nil => rfl
  | cons head rest inductionHypothesis =>
      obtain ⟨held, value⟩ := head
      rw [List.foldl_cons, inductionHypothesis, lookup_insert, List.reverse_cons,
        List.lookup_append]
      by_cases asked : name = held
      · simp [asked]
      · simp [asked, List.lookup_cons, beq_eq_false_iff_ne.mpr asked]

/-- The handed form of an environment has its map. -/
theorem lookup_sorted (environment : List Variable) (name : Bytes) :
    (sorted environment).lookup name = lastValue? environment name := by
  unfold sorted
  rw [lookup_foldl_insert, List.lookup_nil, Option.or_none]

/-- Putting a variable in keeps the names in their strict order. -/
theorem pairwise_insert
    (added : Variable)
    {environment : List Variable}
    (ordered : environment.Pairwise fun left right => left.1 < right.1) :
    (insert added environment).Pairwise fun left right => left.1 < right.1 := by
  induction environment with
  | nil => exact List.pairwise_singleton _ added
  | cons head rest inductionHypothesis =>
      obtain ⟨below, restOrdered⟩ := List.pairwise_cons.mp ordered
      unfold insert isBefore
      split_ifs with before same
      · rw [decide_eq_true_eq] at before
        refine List.pairwise_cons.mpr ⟨?_, ordered⟩
        intro candidate member
        rcases List.mem_cons.mp member with isHead | inRest
        · rw [isHead]
          exact before
        · exact List.lt_trans before (below candidate inRest)
      · refine List.pairwise_cons.mpr ⟨?_, restOrdered⟩
        rw [same]
        exact below
      · have notAfter : head.1 ≤ added.1 := by
          rw [decide_eq_true_eq] at before
          exact List.not_lt.mp before
        have headFirst : head.1 < added.1 :=
          (List.le_iff_lt_or_eq.mp notAfter).resolve_right (Ne.symm same)
        refine List.pairwise_cons.mpr ⟨?_, inductionHypothesis restOrdered⟩
        intro candidate member
        rcases mem_insert member with isAdded | inRest
        · rw [isAdded]
          exact headFirst
        · exact below candidate inRest

theorem pairwise_sorted (environment : List Variable) :
    (sorted environment).Pairwise fun left right => left.1 < right.1 := by
  unfold sorted
  apply List.foldlRecOn environment _ List.Pairwise.nil
  intro done ordered added _
  exact pairwise_insert added ordered

theorem nodup_names_sorted (environment : List Variable) :
    ((sorted environment).map Prod.fst).Nodup := by
  rw [List.nodup_iff_pairwise_ne, List.pairwise_map]
  apply (pairwise_sorted environment).imp
  intro left right before same
  rw [same] at before
  exact List.lt_irrefl right.1 before

/-- The handed form of an environment consists of the names with their values. -/
theorem mem_sorted_iff {environment : List Variable} {name value : Bytes} :
    (name, value) ∈ sorted environment ↔ lastValue? environment name = some value := by
  rw [← lookup_sorted, EnvMap.lookup_eq_some_iff_mem (nodup_names_sorted environment)]

theorem lastValue?_sorted (environment : List Variable) (name : Bytes) :
    lastValue? (sorted environment) name = lastValue? environment name := by
  have distinct : ((sorted environment).reverse.map Prod.fst).Nodup := by
    rw [List.map_reverse, List.nodup_reverse]
    exact nodup_names_sorted environment
  apply Option.ext
  intro value
  rw [lastValue?, EnvMap.lookup_eq_some_iff_mem distinct, List.mem_reverse, mem_sorted_iff]

theorem mem_of_mem_sorted
    {candidate : Variable}
    {environment : List Variable}
    (member : candidate ∈ sorted environment) :
    candidate ∈ environment := by
  have held : lastValue? environment candidate.1 = some candidate.2 := mem_sorted_iff.mp member
  obtain ⟨later, earlier, split, -⟩ := List.lookup_eq_some_iff.mp held
  rw [← List.mem_reverse, split]
  exact List.mem_append_right later List.mem_cons_self

/-- What is handed on is the environment as it is, or the handed form of what is not reserved in
it. -/
theorem handedOn_cases (environment : List Variable) :
    (∃ candidate ∈ environment, isReservedText candidate.1 = true) ∧
        handedOn environment =
          sorted (environment.filter fun candidate => !isReservedText candidate.1) ∨
      environment.filter (fun candidate => !isReservedText candidate.1) = environment ∧
        handedOn environment = environment := by
  unfold handedOn
  split_ifs with reserved
  · exact .inl ⟨List.any_eq_true.mp reserved, rfl⟩
  · refine .inr ⟨List.filter_eq_self.mpr fun candidate member => ?_, rfl⟩
    rw [Bool.not_eq_true, List.any_eq_false] at reserved
    simpa using reserved candidate member

/-- In either case it has the map of what is not reserved. -/
theorem lastValue?_handedOn (environment : List Variable) (name : Bytes) :
    lastValue? (handedOn environment) name =
      lastValue? (environment.filter fun candidate => !isReservedText candidate.1) name := by
  rcases handedOn_cases environment with ⟨-, isSorted⟩ | ⟨noneReserved, isSame⟩
  · rw [isSorted, lastValue?_sorted]
  · rw [isSame, noneReserved]

/-- Where nothing is reserved the environment is handed on as it is. -/
theorem handedOn_of_noneReserved
    {environment : List Variable}
    (noneReserved : ∀ candidate ∈ environment, ¬Utf8.encode reservedStart <+: candidate.1) :
    handedOn environment = environment := by
  rcases handedOn_cases environment with ⟨⟨candidate, member, reserved⟩, -⟩ | ⟨-, isSame⟩
  · rw [isReservedText_eq_isReserved,
      isReserved_eq_false_iff.mpr (noneReserved candidate member)] at reserved
    contradiction
  · exact isSame

/-- No variable is handed on that was not there, or that is reserved. -/
theorem mem_of_mem_handedOn
    {candidate : Variable}
    {environment : List Variable}
    (member : candidate ∈ handedOn environment) :
    candidate ∈ environment ∧ ¬Utf8.encode reservedStart <+: candidate.1 := by
  have kept : candidate ∈ environment.filter fun candidate => !isReservedText candidate.1 := by
    rcases handedOn_cases environment with ⟨-, isSorted⟩ | ⟨noneReserved, isSame⟩
    · rw [isSorted] at member
      exact mem_of_mem_sorted member
    · rwa [noneReserved, ← isSame]
  rw [← isReserved_eq_false_iff, ← isReservedText_eq_isReserved]
  simpa using List.mem_filter.mp kept

end Variables

end SealedEnv
