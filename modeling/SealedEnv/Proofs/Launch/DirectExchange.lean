import SealedEnv.Proofs.Exchange.Direct
import SealedEnv.Proofs.Launch.Acceptance
import SealedEnv.Proofs.Launch.Environment

/-!
Contract: an environment whose sealed values are posted to a service that has their key becomes one
with the plaintexts in their places, and nothing else changes.

Owns:
- which variables are sent, and what restores them;
- `target_of_direct_exchange`, from the choice of the variables to the environment of the target.

Does not own: which replies are accepted, how the request is carried, or how often it is made.
-/

namespace SealedEnv.Launch

open Exchange

/-! ## The environment of the target -/

/-- Holds of a variable that is sent: two texts, of which the first one is a request key and the
second one is detected. -/
def IsSent (pattern : Pattern) (candidate : Variable) : Prop :=
  ∃ key value, candidate = (Utf8.encode key, Utf8.encode value) ∧
    isRequestKey key = true ∧ pattern.occursIn value = true

/-- The variables of an environment that are sent are put in the place of what was opened of
them. -/
structure Restores
    (pattern : Pattern)
    (decapsulator : Kem.Decapsulator)
    (environment target : List Variable) : Prop where
  distinct : (target.map Prod.fst).Nodup
  opened : ∀ key value plaintext,
    (Utf8.encode key, Utf8.encode value) ∈ environment →
      IsSent pattern (Utf8.encode key, Utf8.encode value) →
        Vault.Seals decapsulator plaintext value → isReserved (Utf8.encode key) = false →
          (Utf8.encode key, Utf8.encode plaintext) ∈ target
  kept : ∀ candidate ∈ environment, ¬IsSent pattern candidate →
    isReserved candidate.1 = false → candidate ∈ target
  named : ∀ candidate ∈ target, isReserved candidate.1 = false ∧
    ∃ original ∈ environment, original.1 = candidate.1

section Selection

variable
  {environment : List Variable}
  {pattern : Pattern}
  {decapsulator : Kem.Decapsulator}

/-- What is not sent is not replaced by what was opened of the request. -/
theorem replacement?_openedAll_eq_none
    (distinct : (environment.map Prod.fst).Nodup)
    {candidate : Variable}
    (member : candidate ∈ environment)
    (notSent : ¬IsSent pattern candidate) :
    replacement? (Vault.openedAll (select environment pattern) decapsulator) candidate.1 =
      none := by
  by_contra replaced
  obtain ⟨plaintext, isReplacement⟩ := Option.ne_none_iff_exists'.mp replaced
  obtain ⟨⟨key, text⟩, held, same⟩ := replacement?_eq_some_iff.mp isReplacement
  have present : key ∈ (select environment pattern).keys :=
    Vault.mem_keys_openedAll_iff.mp (List.mem_map_of_mem held)
  obtain ⟨value, found⟩ := (EnvMap.mem_keys_iff _ key).mp present
  obtain ⟨sentMember, isKey, detected⟩ := (get?_select_eq_some_iff distinct).mp found
  -- Names are distinct, so the variable that was sent is this one.
  have sameName : candidate.1 = (Utf8.encode key, Utf8.encode value).1 :=
    (congrArg Prod.fst same).symm
  have isCandidate : candidate = (Utf8.encode key, Utf8.encode value) :=
    List.inj_on_of_nodup_map distinct member sentMember sameName
  exact notSent ⟨key, value, isCandidate, isKey, detected⟩

theorem restores_targetVariables
    (distinct : (environment.map Prod.fst).Nodup) :
    Restores pattern decapsulator environment
      (targetVariables environment
        (Vault.openedAll (select environment pattern) decapsulator)) where
  distinct := nodup_targetVariables distinct _
  opened := by
    intro key value plaintext member isSent seals notReserved
    obtain ⟨sentKey, sentValue, same, isKey, detected⟩ := isSent
    obtain ⟨sameKey, sameValue⟩ := Prod.mk.inj same
    cases Utf8.encode_injective sameKey
    cases Utf8.encode_injective sameValue
    have found : (select environment pattern).get? key = some value :=
      (get?_select_eq_some_iff distinct).mpr ⟨member, isKey, detected⟩
    have opened := Vault.get?_openedAll found seals
    have isReplacement : replacement?
        (Vault.openedAll (select environment pattern) decapsulator) (Utf8.encode key) =
          some (Utf8.encode plaintext) :=
      replacement?_eq_some_iff.mpr ⟨(key, plaintext), (EnvMap.mem_entries_iff _ _).mpr opened, rfl⟩
    refine mem_targetVariables_iff.mpr ⟨notReserved, Utf8.encode value, member, ?_⟩
    rw [isReplacement, Option.getD_some]
  kept := by
    intro candidate member notSent notReserved
    refine mem_targetVariables_iff.mpr ⟨notReserved, candidate.2, member, ?_⟩
    rw [replacement?_openedAll_eq_none distinct member notSent, Option.getD_none]
  named := by
    intro candidate member
    obtain ⟨notReserved, original, inEnvironment, -⟩ := mem_targetVariables_iff.mp member
    exact ⟨notReserved, (candidate.1, original), inEnvironment, rfl⟩

end Selection

/-! ## The whole way -/

/-- Let every variable that a pattern makes the client send be sealed for the key of a service, bare
or in quotes.  Then the reply to what is sent is accepted, and the target has the plaintext of each
of them, the other variables as they were, and no other names.  The pattern need not be the default
one. -/
theorem target_of_direct_exchange
    {environment : List Variable}
    {pattern : Pattern}
    {keyPath : Path}
    {decapsulator : Kem.Decapsulator}
    {cap : Nat}
    (limit : Span)
    (started : Nat)
    {world : World}
    (distinct : (environment.map Prod.fst).Nodup)
    (loads : (Vault.loadPrivateKey keyPath world).1 = .ok decapsulator)
    (sealed : ∀ key value, (Utf8.encode key, Utf8.encode value) ∈ environment →
      isRequestKey key = true → pattern.occursIn value = true →
        ∃ plaintext, Vault.Seals decapsulator plaintext value)
    (filled : ∃ candidate ∈ environment, IsSent pattern candidate)
    (fits : (Utf8.encode (FlatJson.encode (select environment pattern))).length ≤ cap) :
    let request := select environment pattern
    let reply := ((Service.mk (direct keyPath) cap limit started).respond
      ⟨"POST", "/", Utf8.encode (FlatJson.encode request)⟩ world).1
    ∃ plaintexts, accept (.ok ⟨reply.status, reply.body⟩) request = .ok plaintexts ∧
      Restores pattern decapsulator environment (targetVariables environment plaintexts) := by
  intro request reply
  have opens : Vault.OpensTo request (Vault.openedAll request decapsulator) decapsulator := by
    apply Vault.opensTo_openedAll
    intro key value found
    obtain ⟨member, isKey, detected⟩ := (get?_select_eq_some_iff distinct).mp found
    exact sealed key value member isKey detected
  have isAsked : Asked request (Vault.openedAll request decapsulator) := by
    constructor
    · intro isEmpty
      obtain ⟨_, member, key, value, rfl, isKey, detected⟩ := filled
      have found : request.get? key = some value :=
        (get?_select_eq_some_iff distinct).mpr ⟨member, isKey, detected⟩
      have present : key ∈ (Vault.openedAll request decapsulator).keys :=
        Vault.mem_keys_openedAll_iff.mpr ((EnvMap.mem_keys_iff _ key).mpr ⟨value, found⟩)
      rw [isEmpty] at present
      contradiction
    · intro key member
      exact Vault.mem_keys_openedAll_iff.mp member
  have replied : reply = .ofJson (FlatJson.encode (Vault.openedAll request decapsulator)) :=
    congrArg Prod.fst (respond_direct_of_opensTo loads opens isAsked fits
      fun key member => isRequestKey_of_mem_keys_select member)
  refine ⟨Vault.openedAll request decapsulator, ?_, restores_targetVariables distinct⟩
  rw [replied]
  exact accept_encode isAsked.2

/-! ## An environment with two sealed values -/

namespace Sample

open Vault.Zeros

def textual (name value : String) : Variable := (Utf8.encode name, Utf8.encode value)

/-- A sealed value, one in quotes, one under a reserved name, a plain value, and no text. -/
def environment : List Variable :=
  [textual "A" (sealed "x"), textual "B" (Envelope.quoted (sealed "y")),
    textual "OJSTER_C" (sealed "z"), textual "PATH" "/bin", ([255], [254])]

theorem isSent
    {name value plaintext : String}
    (isKey : isRequestKey name = true)
    (seals : Vault.Seals (Kem.expandSeed seed) plaintext value) :
    IsSent Envelope.detection (textual name value) := by
  obtain ⟨capsule, blob, isBuilt⟩ := seals.isBuilt
  exact ⟨name, value, rfl, isKey, Envelope.detection_occursIn_build isBuilt⟩

theorem distinct : (environment.map Prod.fst).Nodup := by
  show [Utf8.encode "A", Utf8.encode "B", Utf8.encode "OJSTER_C", Utf8.encode "PATH",
    [255]].Nodup
  decide

theorem allSealed
    (key value : String)
    (member : (Utf8.encode key, Utf8.encode value) ∈ environment)
    (detected : Envelope.detection.occursIn value = true) :
    ∃ plaintext, Vault.Seals (Kem.expandSeed seed) plaintext value := by
  have notDetected : Envelope.detection.occursIn "/bin" = false := by decide
  have noText : Utf8.decode? [255] = none := by decide
  simp only [environment, textual, List.mem_cons, List.not_mem_nil, or_false,
    Prod.mk.injEq] at member
  rcases member with ⟨-, same⟩ | ⟨-, same⟩ | ⟨-, same⟩ | ⟨-, same⟩ | ⟨same, -⟩
  · exact ⟨"x", seals (by decide) (.inl (Utf8.encode_injective same))⟩
  · exact ⟨"y", seals (by decide) (.inr (Utf8.encode_injective same))⟩
  · exact ⟨"z", seals (by decide) (.inl (Utf8.encode_injective same))⟩
  · rw [Utf8.encode_injective same, notDetected] at detected
    contradiction
  · rw [← same, Utf8.decode?_encode] at noText
    contradiction

end Sample

open Sample Vault.Zeros in
/-- Quotes go with the seal, and what is not sealed stays. -/
theorem target_of_direct_exchange_quoted :
    Pattern.ofString? Envelope.detectionPattern = some Envelope.detection ∧
      ∃ plaintexts, textual "A" "x" ∈ targetVariables environment plaintexts ∧
        textual "B" "y" ∈ targetVariables environment plaintexts ∧
        ([255], [254]) ∈ targetVariables environment plaintexts := by
  have isA : IsSent Envelope.detection (textual "A" (sealed "x")) :=
    isSent (by decide) (seals (by decide) (.inl rfl))
  have isB : IsSent Envelope.detection (textual "B" (Envelope.quoted (sealed "y"))) :=
    isSent (by decide) (seals (by decide) (.inr rfl))
  have notSent : ¬IsSent Envelope.detection ([255], [254]) := by
    rintro ⟨key, value, same, -, -⟩
    have noText : Utf8.decode? [255] = none := by decide
    rw [(Prod.mk.inj same).1, Utf8.decode?_encode] at noText
    contradiction
  obtain ⟨plaintexts, -, restores⟩ := target_of_direct_exchange .longest 0 distinct loads_keyWorld
    (fun key value member _ detected => allSealed key value member detected)
    ⟨_, .head _, isA⟩ le_rfl
  refine ⟨Envelope.ofString?_detectionPattern, plaintexts, ?_, ?_, ?_⟩
  · exact restores.opened "A" (sealed "x") "x" (.head _) isA (seals (by decide) (.inl rfl))
      (by decide)
  · exact restores.opened "B" _ "y" (.tail _ (.head _)) isB (seals (by decide) (.inr rfl))
      (by decide)
  · exact restores.kept _ (by simp [environment]) notSent (by decide)

end SealedEnv.Launch
