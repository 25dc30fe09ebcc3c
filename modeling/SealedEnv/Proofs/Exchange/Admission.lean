import SealedEnv.Exchange.Admission
import SealedEnv.Proofs.FlatJson.RoundTrip

/-!
Contract: which request bodies are admitted, and which results are released.

Owns:
- `Admissible`, the bodies that reach an unsealer, by the grammar of flat objects;
- `Asked`, the results that name nothing but what was asked for;
- the two failures of a release, each of which is one for all results.

Does not own: replies.
-/

namespace SealedEnv.Exchange

/-! ## Admission -/

/-- Holds of a body within the cap that is an object of texts under request keys, and of the map of
its members, of which the last one of a key counts. -/
def Admissible (cap : Nat) (body : Bytes) (asked : EnvMap) : Prop :=
  body.length ≤ cap ∧ ∃ text pairs, Utf8.encode text = body ∧
    FlatJson.IsObject text.toList pairs ∧ asked = EnvMap.ofList pairs ∧
      ∀ pair ∈ pairs, isRequestKey pair.1 = true

theorem find?_notRequestKey_eq_none_iff (pairs : List (String × String)) :
    (EnvMap.ofList pairs).keys.find? (fun key => !isRequestKey key) = none ↔
      ∀ pair ∈ pairs, isRequestKey pair.1 = true := by
  rw [List.find?_eq_none]
  constructor
  · intro allowed pair member
    have inKeys : pair.1 ∈ (EnvMap.ofList pairs).keys :=
      (EnvMap.mem_keys_ofList_iff pairs pair.1).mpr (List.mem_map_of_mem member)
    simpa using allowed pair.1 inKeys
  · intro allowed key inKeys
    obtain ⟨pair, member, rfl⟩ :=
      List.mem_map.mp ((EnvMap.mem_keys_ofList_iff pairs key).mp inKeys)
    simp [allowed pair member]

theorem admission_eq_ok_iff
    {cap : Nat}
    {body : Bytes}
    {asked : EnvMap} :
    admission cap body = .ok asked ↔ Admissible cap body asked := by
  constructor
  · intro admitted
    unfold admission at admitted
    split at admitted
    case isTrue => contradiction
    case isFalse within =>
      split at admitted
      case h_1 => contradiction
      case h_2 request decoded =>
        split at admitted
        case h_1 => contradiction
        case h_2 allowed =>
          cases admitted
          obtain ⟨text, pairs, isBody, isObject, rfl⟩ := FlatJson.decode?_eq_some_iff.mp decoded
          exact ⟨Nat.not_lt.mp within, text, pairs, isBody, isObject, rfl,
            (find?_notRequestKey_eq_none_iff pairs).mp allowed⟩
  · rintro ⟨within, text, pairs, isBody, isObject, rfl, allowed⟩
    have decoded : FlatJson.decode? body = some (EnvMap.ofList pairs) :=
      FlatJson.decode?_eq_some_iff.mpr ⟨text, pairs, isBody, isObject, rfl⟩
    unfold admission
    rw [if_neg (Nat.not_lt.mpr within), decoded]
    simp only []
    rw [(find?_notRequestKey_eq_none_iff pairs).mpr allowed]

/-- A map under request keys is admitted in its written form. -/
theorem admission_encode
    {cap : Nat}
    {request : EnvMap}
    (fits : (Utf8.encode (FlatJson.encode request)).length ≤ cap)
    (allowed : ∀ key ∈ request.keys, isRequestKey key = true) :
    admission cap (Utf8.encode (FlatJson.encode request)) = .ok request := by
  refine admission_eq_ok_iff.mpr ⟨fits, _, request.entries, rfl, FlatJson.isObject_encode request,
    request.ofList_entries.symm, ?_⟩
  intro entry member
  exact allowed entry.1 (List.mem_map_of_mem member)

/-- What is wrong with a body that is not admitted is its form or one of its keys. -/
theorem fault_of_admission_error
    {cap : Nat}
    {body : Bytes}
    {failure : Failure}
    (refused : admission cap body = .error failure) :
    (∃ cause, failure = .invalidJson cause) ∨ ∃ key, failure = .invalidKeyName key := by
  unfold admission at refused
  split at refused
  case isTrue => exact .inl ⟨_, (Except.error.inj refused).symm⟩
  case isFalse =>
    split at refused
    case h_1 => exact .inl ⟨_, (Except.error.inj refused).symm⟩
    case h_2 =>
      split at refused
      case h_1 key found => exact .inr ⟨key, (Except.error.inj refused).symm⟩
      case h_2 => contradiction

/-- A body that is not admitted is a bad request. -/
theorem status_of_admission_error
    {cap : Nat}
    {body : Bytes}
    {failure : Failure}
    (refused : admission cap body = .error failure) :
    failure.status = 400 := by
  rcases fault_of_admission_error refused with ⟨cause, rfl⟩ | ⟨key, rfl⟩ <;> rfl

/-! ## Release -/

/-- Holds of a result that is not empty and names nothing but what was asked for. -/
def Asked (asked result : EnvMap) : Prop :=
  result ≠ .empty ∧ ∀ key ∈ result.keys, key ∈ asked.keys

theorem any_notContained_iff (asked result : EnvMap) :
    (result.keys.any fun key => !asked.contains key) = true ↔
      ∃ key ∈ result.keys, key ∉ asked.keys := by
  simp only [List.any_eq_true, Bool.not_eq_true', ← Bool.not_eq_true,
    EnvMap.contains_eq_true_iff]

theorem release_unexpected
    {asked result : EnvMap}
    (foreign : ∃ key ∈ result.keys, key ∉ asked.keys) :
    release asked result = .error .unexpectedKeysReturned := by
  unfold release
  rw [if_pos ((any_notContained_iff asked result).mpr foreign)]

theorem release_empty (asked : EnvMap) : release asked .empty = .error .noAcceptableEntries := rfl

theorem release_asked
    {asked result : EnvMap}
    (isAsked : Asked asked result) :
    release asked result = .ok result := by
  have noForeign : ¬(result.keys.any fun key => !asked.contains key) = true := by
    intro foreign
    obtain ⟨key, inResult, notAsked⟩ := (any_notContained_iff asked result).mp foreign
    exact notAsked (isAsked.2 key inResult)
  unfold release
  rw [if_neg noForeign, if_neg (fun isEmpty =>
    isAsked.1 (result.isEmpty_eq_true_iff.mp isEmpty))]

/-- A result is released, or names something that was not asked for, or is empty. -/
theorem asked_cases (asked result : EnvMap) :
    Asked asked result ∨ (∃ key ∈ result.keys, key ∉ asked.keys) ∨ result = .empty := by
  by_cases foreign : ∃ key ∈ result.keys, key ∉ asked.keys
  · exact .inr (.inl foreign)
  · by_cases isEmpty : result = .empty
    · exact .inr (.inr isEmpty)
    · refine .inl ⟨isEmpty, ?_⟩
      intro key inResult
      by_contra notAsked
      exact foreign ⟨key, inResult, notAsked⟩

/-- A result that names nothing else is withheld only if it is empty. -/
theorem eq_noAcceptableEntries_of_release
    {asked result : EnvMap}
    {failure : Failure}
    (within : ∀ key ∈ result.keys, key ∈ asked.keys)
    (withheld : release asked result = .error failure) :
    failure = .noAcceptableEntries := by
  rcases asked_cases asked result with isAsked | ⟨key, inResult, notAsked⟩ | rfl
  · rw [release_asked isAsked] at withheld
    contradiction
  · exact absurd (within key inResult) notAsked
  · rw [release_empty] at withheld
    exact (Except.error.inj withheld).symm

end SealedEnv.Exchange
