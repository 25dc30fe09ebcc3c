import SealedEnv.Launch.Selection
import SealedEnv.Launch.Target
import SealedEnv.Proofs.EnvMap
import SealedEnv.Proofs.Variables

/-!
Contract: what is taken out of an environment to be unsealed, and what is put in its place.

Owns:
- the request for an environment, as the variables that are texts and are chosen;
- the environment of the target, as what each variable is handed on as;
- distinct names, which stay distinct;
- `targetVariables_only_replaces`: of any list of variables nothing is lost, and nothing comes in.

Does not own: where the plaintexts come from.
-/

namespace SealedEnv

theorem Utf8.decode?_eq_some_iff
    {bytes : Bytes}
    {text : String} :
    decode? bytes = some text ↔ bytes = encode text := by
  constructor
  · intro decoded
    exact (encode_of_decode? decoded).symm
  · rintro rfl
    exact decode?_encode text

namespace Launch

/-! ## The request -/

theorem textual?_eq_some_iff
    {candidate : Variable}
    {entry : String × String} :
    textual? candidate = some entry ↔
      candidate = (Utf8.encode entry.1, Utf8.encode entry.2) := by
  obtain ⟨name, value⟩ := candidate
  obtain ⟨key, text⟩ := entry
  simp only [textual?, bind, pure, Option.bind_eq_some_iff, Utf8.decode?_eq_some_iff,
    Option.some.injEq, Prod.mk.injEq]
  constructor
  · rintro ⟨_, rfl, _, rfl, rfl, rfl⟩
    exact ⟨rfl, rfl⟩
  · rintro ⟨rfl, rfl⟩
    exact ⟨key, rfl, text, rfl, rfl, rfl⟩

theorem mem_textual_iff
    {environment : List Variable}
    {entry : String × String} :
    entry ∈ environment.filterMap textual? ↔
      (Utf8.encode entry.1, Utf8.encode entry.2) ∈ environment := by
  simp only [List.mem_filterMap, textual?_eq_some_iff, exists_eq_right]

theorem nodup_textual
    {environment : List Variable}
    (distinct : (environment.map Prod.fst).Nodup) :
    ((environment.filterMap textual?).map Prod.fst).Nodup := by
  rw [List.nodup_iff_pairwise_ne, List.pairwise_map] at distinct ⊢
  refine List.Pairwise.filterMap textual? ?_ distinct
  intro candidate other different entry isEntry otherEntry isOther same
  rw [textual?_eq_some_iff.mp isEntry, textual?_eq_some_iff.mp isOther, same] at different
  exact different rfl

/-- The request holds the variables that are texts and are chosen. -/
theorem get?_select_eq_some_iff
    {environment : List Variable}
    (distinct : (environment.map Prod.fst).Nodup)
    {pattern : Pattern}
    {key value : String} :
    (select environment pattern).get? key = some value ↔
      (Utf8.encode key, Utf8.encode value) ∈ environment ∧
        isRequestKey key = true ∧ pattern.occursIn value = true := by
  have chosenDistinct : (((environment.filterMap textual?).filter (isChosen pattern)).map
      Prod.fst).Nodup :=
    (nodup_textual distinct).sublist (List.filter_sublist.map Prod.fst)
  unfold select
  rw [EnvMap.get?_ofList_eq_some_iff chosenDistinct, List.mem_filter, mem_textual_iff, isChosen,
    Bool.and_eq_true]

/-! ## The environment of the target -/

/-- What a plaintext puts in place of the value of a name. -/
def replacement? (decrypted : EnvMap) (name : Bytes) : Option Bytes :=
  (Utf8.decode? name).bind fun key => (decrypted.get? key).map Utf8.encode

theorem replacement?_eq_some_iff
    {decrypted : EnvMap}
    {name value : Bytes} :
    replacement? decrypted name = some value ↔
      ∃ entry ∈ decrypted.entries, (Utf8.encode entry.1, Utf8.encode entry.2) = (name, value) := by
  unfold replacement?
  simp only [Option.bind_eq_some_iff, Option.map_eq_some_iff, Utf8.decode?_eq_some_iff,
    EnvMap.mem_entries_iff, Prod.mk.injEq]
  constructor
  · rintro ⟨key, rfl, plaintext, held, rfl⟩
    exact ⟨(key, plaintext), held, rfl, rfl⟩
  · rintro ⟨⟨key, plaintext⟩, held, rfl, rfl⟩
    exact ⟨key, rfl, plaintext, held, rfl⟩

theorem isReplaced_eq (decrypted : EnvMap) (candidate : Variable) :
    isReplaced decrypted candidate = (replacement? decrypted candidate.1).isSome := by
  unfold isReplaced replacement? EnvMap.contains
  cases Utf8.decode? candidate.1 <;> simp

/-- The target has the variables that are not reserved, each with its plaintext, if there is one,
and else with its old value. -/
theorem mem_targetVariables_iff
    {environment : List Variable}
    {decrypted : EnvMap}
    {name value : Bytes} :
    (name, value) ∈ targetVariables environment decrypted ↔
      isReserved name = false ∧ ∃ original, (name, original) ∈ environment ∧
        value = (replacement? decrypted name).getD original := by
  simp only [targetVariables, List.mem_append, List.mem_filter, List.any_eq_true, List.mem_map,
    Bool.not_eq_true', isReplaced_eq, decide_eq_true_eq]
  constructor
  · rintro (⟨⟨member, notReserved⟩, notReplaced⟩ | ⟨isPlaintext, ⟨other, original⟩, kept, same⟩)
    · refine ⟨notReserved, value, member, ?_⟩
      rw [Option.isSome_eq_false_iff, Option.isNone_iff_eq_none] at notReplaced
      rw [notReplaced, Option.getD_none]
    · obtain rfl : other = name := same
      refine ⟨kept.2, original, kept.1, ?_⟩
      rw [replacement?_eq_some_iff.mpr isPlaintext, Option.getD_some]
  · rintro ⟨notReserved, original, member, isValue⟩
    cases found : replacement? decrypted name with
    | none =>
        rw [found, Option.getD_none] at isValue
        subst isValue
        exact .inl ⟨⟨member, notReserved⟩, rfl⟩
    | some plaintext =>
        rw [found, Option.getD_some] at isValue
        subst isValue
        exact .inr ⟨replacement?_eq_some_iff.mp found, (name, original),
          ⟨member, notReserved⟩, rfl⟩

/-- The target has each name once. -/
theorem nodup_targetVariables
    {environment : List Variable}
    (distinct : (environment.map Prod.fst).Nodup)
    (decrypted : EnvMap) :
    ((targetVariables environment decrypted).map Prod.fst).Nodup := by
  unfold targetVariables
  simp only [List.map_append]
  rw [List.nodup_append]
  refine ⟨?_, ?_, ?_⟩
  · exact distinct.sublist ((List.filter_sublist.trans List.filter_sublist).map Prod.fst)
  · have plainDistinct : ((decrypted.entries.map fun entry =>
        (Utf8.encode entry.1, Utf8.encode entry.2)).map Prod.fst).Nodup := by
      rw [List.map_map]
      have keysDistinct := decrypted.nodup_keys
      rw [List.nodup_iff_pairwise_ne, List.pairwise_map] at keysDistinct ⊢
      exact keysDistinct.imp fun different same => different (Utf8.encode_injective same)
    exact plainDistinct.sublist (List.filter_sublist.map Prod.fst)
  · -- A name with a plaintext is not among those that keep their values.
    intro name isKept other isPlain same
    subst same
    simp only [List.mem_map, List.mem_filter, Bool.not_eq_true', isReplaced_eq] at isKept isPlain
    obtain ⟨candidate, ⟨-, notReplaced⟩, rfl⟩ := isKept
    obtain ⟨plaintext, ⟨isPlaintext, -⟩, sameName⟩ := isPlain
    have replaced : replacement? decrypted candidate.1 = some plaintext.2 := by
      rw [← sameName]
      exact replacement?_eq_some_iff.mpr isPlaintext
    rw [replaced] at notReplaced
    contradiction

/-! ## What is replaced, and what is not -/

/-- Holds of the variables under whose name there is a plaintext. -/
def HasPlaintext (decrypted : EnvMap) (candidate : Variable) : Prop :=
  ∃ key ∈ decrypted.keys, candidate.1 = Utf8.encode key

instance (decrypted : EnvMap) : DecidablePred (HasPlaintext decrypted) := fun candidate =>
  inferInstanceAs (Decidable (∃ key ∈ decrypted.keys, candidate.1 = Utf8.encode key))

theorem isReplaced_iff
    {decrypted : EnvMap}
    {candidate : Variable} :
    isReplaced decrypted candidate = true ↔ HasPlaintext decrypted candidate := by
  unfold isReplaced HasPlaintext
  simp only [Option.any_eq_true, EnvMap.contains_eq_true_iff, Utf8.decode?_eq_some_iff]
  exact exists_congr fun _ => and_comm

section Target

variable {environment : List Variable} {decrypted : EnvMap}

/-- The plaintexts as variables. -/
def plaintextVariables (decrypted : EnvMap) : List Variable :=
  decrypted.entries.map fun entry => (Utf8.encode entry.1, Utf8.encode entry.2)

theorem hasPlaintext_of_mem_plaintextVariables
    {candidate : Variable}
    (member : candidate ∈ plaintextVariables decrypted) :
    HasPlaintext decrypted candidate := by
  obtain ⟨entry, held, rfl⟩ := List.mem_map.mp member
  exact ⟨entry.1, List.mem_map_of_mem held, rfl⟩

/-- The target is what stays of the environment, and then the plaintexts under names that it has. -/
theorem targetVariables_eq (environment : List Variable) (decrypted : EnvMap) :
    targetVariables environment decrypted =
      (environment.filter fun candidate =>
        !isReplaced decrypted candidate && !isReserved candidate.1) ++
      (plaintextVariables decrypted).filter fun plaintext =>
        (environment.filter fun candidate => !isReserved candidate.1).any fun candidate =>
          candidate.1 = plaintext.1 := by
  unfold targetVariables plaintextVariables
  simp only [List.filter_filter]

/-- The target has the names that are not reserved. -/
theorem mem_names_targetVariables_iff {name : Bytes} :
    name ∈ (targetVariables environment decrypted).map Prod.fst ↔
      name ∈ environment.map Prod.fst ∧ isReserved name = false := by
  simp only [List.mem_map]
  constructor
  · rintro ⟨⟨_, value⟩, member, rfl⟩
    obtain ⟨notReserved, original, inEnvironment, -⟩ := mem_targetVariables_iff.mp member
    exact ⟨⟨_, inEnvironment, rfl⟩, notReserved⟩
  · rintro ⟨⟨⟨_, original⟩, member, rfl⟩, notReserved⟩
    exact ⟨(_, _), mem_targetVariables_iff.mpr ⟨notReserved, original, member, rfl⟩, rfl⟩

/-- What has no plaintext stands in the target as it stood in the environment. -/
theorem filter_not_hasPlaintext_targetVariables :
    (targetVariables environment decrypted).filter (¬HasPlaintext decrypted ·) =
      environment.filter fun candidate =>
        ¬HasPlaintext decrypted candidate ∧ isReserved candidate.1 = false := by
  have noneLeft : ((plaintextVariables decrypted).filter fun plaintext =>
      (environment.filter fun candidate => !isReserved candidate.1).any fun candidate =>
        candidate.1 = plaintext.1).filter (¬HasPlaintext decrypted ·) = [] := by
    apply List.filter_eq_nil_iff.mpr
    intro candidate member
    simp [hasPlaintext_of_mem_plaintextVariables (List.mem_filter.mp member).1]
  rw [targetVariables_eq, List.filter_append, noneLeft, List.append_nil, List.filter_filter]
  apply List.filter_congr
  intro candidate _
  rw [Bool.eq_iff_iff]
  simp [← isReplaced_iff]

/-- A plaintext stands in the target once, whatever stood under its name. -/
theorem filter_name_targetVariables
    {key plaintext : String}
    (held : decrypted.get? key = some plaintext)
    (named : Utf8.encode key ∈ environment.map Prod.fst)
    (notReserved : isReserved (Utf8.encode key) = false) :
    (targetVariables environment decrypted).filter (·.1 = Utf8.encode key) =
      [(Utf8.encode key, Utf8.encode plaintext)] := by
  have isKey : key ∈ decrypted.keys := (decrypted.mem_keys_iff key).mpr ⟨plaintext, held⟩
  have noneKept : (environment.filter fun candidate =>
      !isReplaced decrypted candidate && !isReserved candidate.1).filter
        (·.1 = Utf8.encode key) = [] := by
    apply List.filter_eq_nil_iff.mpr
    intro candidate member isNamed
    have replaced : isReplaced decrypted candidate = true :=
      isReplaced_iff.mpr ⟨key, isKey, of_decide_eq_true isNamed⟩
    simp [replaced] at member
  have onlyOne : (plaintextVariables decrypted).filter (·.1 = Utf8.encode key) =
      [(Utf8.encode key, Utf8.encode plaintext)] := by
    unfold plaintextVariables
    rw [List.filter_map, List.filter_congr, EnvMap.filter_entries_of_get? held, List.map_singleton]
    intro entry _
    exact decide_eq_decide.mpr ⟨(Utf8.encode_injective ·), congrArg Utf8.encode⟩
  obtain ⟨original, member, isNamed⟩ := List.mem_map.mp named
  have kept : ((environment.filter fun candidate => !isReserved candidate.1).any fun candidate =>
      candidate.1 = Utf8.encode key) = true := by
    rw [List.any_eq_true]
    refine ⟨original, List.mem_filter.mpr ⟨member, ?_⟩, decide_eq_true isNamed⟩
    rw [isNamed, notReserved]
    rfl
  rw [targetVariables_eq, List.filter_append, noneKept, List.nil_append, ← onlyOne,
    List.filter_filter]
  apply List.filter_congr
  intro candidate _
  by_cases isNamed : candidate.1 = Utf8.encode key
  · rw [isNamed, kept, Bool.and_true]
  · simp [isNamed]

end Target

/-- The target has no reserved name, and of the others those of the environment and no more.  A name
with a plaintext stands there once, with the plaintext; all that has none stands there as it stood
in the environment, in its order and as often.  Names need not be texts, and may occur again. -/
theorem targetVariables_only_replaces (environment : List Variable) (decrypted : EnvMap) :
    let target := targetVariables environment decrypted
    (∀ candidate ∈ target, ¬Utf8.encode reservedStart <+: candidate.1) ∧
    (∀ name, name ∈ target.map Prod.fst ↔
      name ∈ environment.map Prod.fst ∧ ¬Utf8.encode reservedStart <+: name) ∧
    (∀ key plaintext, decrypted.get? key = some plaintext →
      Utf8.encode key ∈ environment.map Prod.fst → ¬Utf8.encode reservedStart <+: Utf8.encode key →
        target.filter (·.1 = Utf8.encode key) = [(Utf8.encode key, Utf8.encode plaintext)]) ∧
    target.filter (¬HasPlaintext decrypted ·) = environment.filter fun candidate =>
      ¬HasPlaintext decrypted candidate ∧ ¬Utf8.encode reservedStart <+: candidate.1 := by
  intro target
  simp only [← isReserved_eq_false_iff]
  refine ⟨?_, fun _ => mem_names_targetVariables_iff, fun _ _ => filter_name_targetVariables,
    filter_not_hasPlaintext_targetVariables⟩
  intro candidate member
  exact (mem_names_targetVariables_iff.mp (List.mem_map_of_mem member)).2

/-- A name that occurs twice gets its plaintext once, one that is no text stays as often as it is
there, and neither a reserved name nor an absent one comes in with its plaintext. -/
theorem targetVariables_only_replaces_repeatedName :
    let text (name value : String) : Variable := (Utf8.encode name, Utf8.encode value)
    let environment : List Variable :=
      [([255], [1]), text "A" "1", text "OJSTER_B" "2", text "A" "3", ([255], [1])]
    let decrypted : EnvMap := .ofList [("A", "x"), ("OJSTER_B", "y"), ("C", "z")]
    let target := targetVariables environment decrypted
    target.filter (·.1 = Utf8.encode "A") = [text "A" "x"] ∧
      Utf8.encode "OJSTER_B" ∉ target.map Prod.fst ∧ Utf8.encode "C" ∉ target.map Prod.fst ∧
      target.filter (¬HasPlaintext decrypted ·) = [([255], [1]), ([255], [1])] := by
  intro text environment decrypted target
  obtain ⟨-, names, once, others⟩ := targetVariables_only_replaces environment decrypted
  refine ⟨once "A" "x" (by decide) (by decide) (by decide), ?_, ?_, ?_⟩
  · rw [names]
    decide
  · rw [names]
    decide
  · rw [others]
    decide

end Launch

end SealedEnv
