import SealedEnv.Exchange.Direct
import SealedEnv.Proofs.Exchange.Service
import SealedEnv.Proofs.Vault.Selection

/-!
Contract: what unsealing with a private key file at hand gives.

Owns:
- `direct` as the reading of a key and the opening of a map, which change nothing;
- the reply of a service that unseals so, to any request and to one that the key opens;
- `direct_all_or_none`, the results for all requests and the failures that a post can meet.

Does not own: the form of a request.
-/

namespace SealedEnv.Exchange

/-- The values of a request that the key in a file opens. -/
theorem direct_apply (path : Path) (request : EnvMap) (world : World) :
    direct path request world =
      (((Vault.privateKeyOf path.display (world.store.readText world.here path)).bind
        (Vault.unsealEntries "request" request [])).map (·.values), world) := by
  have unsealed : Vault.unsealSource (.map request) path [] world =
      ((Vault.privateKeyOf path.display (world.store.readText world.here path)).bind
        (Vault.unsealEntries "request" request []), world) :=
    Vault.unsealSource_apply rfl path []
  unfold direct
  generalize (Vault.privateKeyOf path.display (world.store.readText world.here path)).bind
    (Vault.unsealEntries "request" request []) = opened at unsealed ⊢
  cases opened with
  | error failure =>
      rw [Action.bind_of_error unsealed]
      rfl
  | ok result =>
      rw [Action.bind_of_ok unsealed]
      rfl

/-- The reply to an admitted request that is unsealed with the key at hand. -/
theorem respond_direct
    {path : Path}
    {cap : Nat}
    {limit : Span}
    {started : Nat}
    {body : Bytes}
    {request : EnvMap}
    (admitted : admission cap body = .ok request)
    (world : World) :
    (Service.mk (direct path) cap limit started).respond ⟨"POST", "/", body⟩ world =
      (.ofResult ((direct path request world).1.bind (release request)), world) := by
  have unchanged : direct path request world = ((direct path request world).1, world) := by
    rw [direct_apply]
  exact respond_unsealed rfl (path_root "POST" body) admitted unchanged (.inl rfl)

/-- Values that the key opens are unsealed to their plaintexts. -/
theorem direct_of_opensTo
    {path : Path}
    {request plain : EnvMap}
    {decapsulator : Kem.Decapsulator}
    {world : World}
    (loads : (Vault.loadPrivateKey path world).1 = .ok decapsulator)
    (opens : Vault.OpensTo request plain decapsulator) :
    direct path request world = (.ok plain, world) := by
  have isKey : Vault.privateKeyOf path.display (world.store.readText world.here path) =
      .ok decapsulator := by
    rw [Vault.loadPrivateKey_eq] at loads
    exact loads
  rw [direct_apply, isKey, Except.bind, opens.unsealEntries_nil]
  rfl

/-- A request of values that the key opens is answered with their plaintexts. -/
theorem respond_direct_of_opensTo
    {path : Path}
    {cap : Nat}
    {limit : Span}
    {started : Nat}
    {request plain : EnvMap}
    {decapsulator : Kem.Decapsulator}
    {world : World}
    (loads : (Vault.loadPrivateKey path world).1 = .ok decapsulator)
    (opens : Vault.OpensTo request plain decapsulator)
    (isAsked : Asked request plain)
    (fits : (Utf8.encode (FlatJson.encode request)).length ≤ cap)
    (allowed : ∀ key ∈ request.keys, isRequestKey key = true) :
    (Service.mk (direct path) cap limit started).respond
      ⟨"POST", "/", Utf8.encode (FlatJson.encode request)⟩ world =
        (.ofJson (FlatJson.encode plain), world) := by
  rw [respond_direct (admission_encode fits allowed), direct_of_opensTo loads opens, Except.bind,
    release_asked isAsked]
  rfl

/-! ## All sealed values or none -/

theorem status_of_keyFileFault
    {shown : String}
    {failure : Failure}
    (fault : Vault.KeyFileFault shown failure) :
    failure.status = 500 := by
  cases fault <;> rfl

theorem status_of_valueFault
    {key : String}
    {failure : Failure}
    (fault : Vault.ValueFault key failure) :
    failure.status = 502 := by
  cases fault <;> rfl

/-- The ways in which unsealing the sealed values of a request ends: they are all opened, or one of
them fails after those before it were opened. -/
inductive DirectOutcome
    (request : EnvMap)
    (decapsulator : Kem.Decapsulator)
    (order : List String) :
    Except Failure EnvMap → Prop where
  | opened
      {values : EnvMap}
      (named : values.keys = order)
      (gives : Vault.GivesAll request decapsulator order values) :
      DirectOutcome request decapsulator order (.ok values)
  | failed
      {key : String}
      {failure : Failure}
      (first : Vault.FailsFirst request decapsulator key failure order)
      (fault : Vault.ValueFault key failure)
      (status : failure.status = 502) :
      DirectOutcome request decapsulator order (.error failure)

theorem direct_of_keyFault
    {path : Path}
    {world : World}
    {failure : Failure}
    (fails : Vault.privateKeyOf path.display (world.store.readText world.here path) =
      .error failure)
    (request : EnvMap) :
    direct path request world = (.error failure, world) := by
  rw [direct_apply, fails]
  rfl

theorem direct_of_key
    {path : Path}
    {world : World}
    {decapsulator : Kem.Decapsulator}
    (isKey : Vault.privateKeyOf path.display (world.store.readText world.here path) =
      .ok decapsulator)
    (request : EnvMap) :
    direct path request world =
      ((Vault.unsealEntries "request" request [] decapsulator).map (·.values), world) := by
  rw [direct_apply, isKey]
  rfl

/-- Without a request by name no chosen key is missing, and every chosen value is sealed. -/
theorem directOutcome_unsealEntries (request : EnvMap) (decapsulator : Kem.Decapsulator) :
    DirectOutcome request decapsulator (Vault.selection request [])
      ((Vault.unsealEntries "request" request [] decapsulator).map (·.values)) := by
  have chooses := Vault.chooses_selection request []
  generalize isOrder : Vault.selection request [] = order at chooses
  have outcome := Vault.outcome_unsealEntries "request" request [] decapsulator
  rw [isOrder] at outcome
  generalize Vault.unsealEntries "request" request [] decapsulator = result at outcome
  cases chooses with
  | asked filled => exact absurd rfl filled
  | allSealed ascending members =>
      cases outcome with
      -- The chosen keys were found in the request.
      | missing someAbsent _ absentIff =>
          obtain ⟨key, member⟩ := List.exists_mem_of_ne_nil _ someAbsent
          obtain ⟨chosen, isAbsent⟩ := (absentIff key).mp member
          obtain ⟨stored, found, -⟩ := (members key).mp chosen
          exact absurd ((request.mem_keys_iff key).mpr ⟨stored, found⟩) isAbsent
      | failed _ first =>
          obtain ⟨chosen, stored, found, fails⟩ := first.exists_stored
          obtain ⟨held, alsoFound, isSealed⟩ := (members _).mp chosen
          obtain rfl := Option.some.inj (alsoFound.symm.trans found)
          have fault := Vault.valueFault_of_unsealValue isSealed fails
          exact .failed first fault (status_of_valueFault fault)
      | opened gives => exact .opened (gives.keys_eq ascending) gives

/-! ## What a post can meet -/

/-- Holds of the failures that a post can meet: a body or a key that is not admitted, a fault of the
key file or of a sealed value, or nothing to release. -/
inductive PostFault (path : Path) : Failure → Prop where
  | form (cause : String) : PostFault path (.invalidJson cause)
  | keyName (key : String) : PostFault path (.invalidKeyName key)
  | keyFile
      {failure : Failure}
      (fault : Vault.KeyFileFault path.display failure) :
      PostFault path failure
  | value
      {key : String}
      {failure : Failure}
      (fault : Vault.ValueFault key failure) :
      PostFault path failure
  | nothing : PostFault path .noAcceptableEntries

/-- Holds of the failures that tell of missing keys, of an env file, of a bare value, or of keys
that were not asked for. -/
inductive IsForeign : Failure → Prop where
  | missingKeys (origin : String) (absent : List String) : IsForeign (.missingKeys origin absent)
  | envFileUnreadable (path : String) (cause : IoError) : IsForeign (.envFileUnreadable path cause)
  | valueNotSealed (key : String) : IsForeign (.valueNotSealed key)
  | unexpectedKeysReturned : IsForeign .unexpectedKeysReturned

namespace PostFault

variable {path : Path} {failure : Failure}

theorem status_mem (fault : PostFault path failure) : failure.status ∈ [400, 500, 502] := by
  cases fault with
  | form cause => exact List.mem_cons_self
  | keyName key => exact List.mem_cons_self
  | keyFile fault => simp [status_of_keyFileFault fault]
  | value fault => simp [status_of_valueFault fault]
  | nothing => simp [Failure.status]

theorem not_isForeign (fault : PostFault path failure) : ¬IsForeign failure := by
  intro foreign
  cases fault with
  | form => cases foreign
  | keyName => cases foreign
  | keyFile fault => cases fault <;> cases foreign
  | value fault => cases fault <;> cases foreign
  | nothing => cases foreign

end PostFault

theorem postFault_of_exchange
    {path : Path}
    {cap : Nat}
    {body : Bytes}
    {world : World}
    {failure : Failure}
    (fails : (exchange (direct path) cap body world).1 = .error failure) :
    PostFault path failure := by
  cases admitted : admission cap body with
  | error refusal =>
      rw [exchange_refused admitted] at fails
      obtain rfl := Except.error.inj fails
      rcases fault_of_admission_error admitted with ⟨cause, rfl⟩ | ⟨key, rfl⟩
      · exact .form cause
      · exact .keyName key
  | ok asked =>
      rw [exchange_admitted admitted] at fails
      cases isKey : Vault.privateKeyOf path.display (world.store.readText world.here path) with
      | error fault =>
          rw [direct_of_keyFault isKey] at fails
          obtain rfl := Except.error.inj fails
          exact .keyFile (Vault.keyFileFault_of_privateKeyOf isKey)
      | ok decapsulator =>
          rw [direct_of_key isKey] at fails
          have outcome := directOutcome_unsealEntries asked decapsulator
          generalize (Vault.unsealEntries "request" asked [] decapsulator).map (·.values) = result
            at outcome fails
          cases outcome with
          | failed _ fault =>
              obtain rfl := Except.error.inj fails
              exact .value fault
          | @opened values named =>
              have within : ∀ key ∈ values.keys, key ∈ asked.keys := by
                rw [named]
                exact fun _ => Vault.mem_keys_of_mem_selection_nil
              obtain rfl := eq_noAcceptableEntries_of_release within fails
              exact .nothing

/-- Unsealing with a key file changes nothing, and what is wrong with the file is the result of all
requests.  With a key all sealed values of a request are given, or none and the failure of the first
one that fails, in the order of their keys.  So a post meets no failure that tells of missing keys,
of an env file, of a bare value, or of keys that were not asked for, and its reply has one of four
statuses. -/
theorem direct_all_or_none (path : Path) (world : World) :
    ((∃ failure, Vault.privateKeyOf path.display (world.store.readText world.here path) =
        .error failure ∧ Vault.KeyFileFault path.display failure ∧ failure.status = 500 ∧
          ∀ request, direct path request world = (.error failure, world)) ∨
      ∃ decapsulator, Vault.privateKeyOf path.display (world.store.readText world.here path) =
        .ok decapsulator ∧ ∀ request, (direct path request world).2 = world ∧
          ∃ order, Vault.Chooses request [] order ∧
            DirectOutcome request decapsulator order (direct path request world).1) ∧
    (∀ cap body failure, (exchange (direct path) cap body world).1 = .error failure →
      PostFault path failure ∧ ¬IsForeign failure) ∧
    ∀ cap limit started posted, posted.method = "POST" → posted.path = "/" →
      ((Service.mk (direct path) cap limit started).reply posted world).1.status ∈
        [200, 400, 500, 502] := by
  refine ⟨?_, ?_, ?_⟩
  · cases isKey : Vault.privateKeyOf path.display (world.store.readText world.here path) with
    | error failure =>
        have fault := Vault.keyFileFault_of_privateKeyOf isKey
        exact .inl ⟨failure, rfl, fault, status_of_keyFileFault fault, direct_of_keyFault isKey⟩
    | ok decapsulator =>
        refine .inr ⟨decapsulator, rfl, fun request => ?_⟩
        rw [direct_of_key isKey]
        exact ⟨rfl, _, Vault.chooses_selection request [],
          directOutcome_unsealEntries request decapsulator⟩
  · intro cap body failure fails
    have fault := postFault_of_exchange fails
    exact ⟨fault, fault.not_isForeign⟩
  · intro cap limit started posted isPost isRoot
    have isUnsealing := Service.route_eq_unsealing_iff.mpr ⟨isPost, isRoot⟩
    rw [Service.reply_unsealing _ isUnsealing]
    cases result : (exchange (direct path) cap posted.body world).1 with
    | ok values => exact List.mem_cons_self
    | error failure => exact List.mem_cons_of_mem 200 (postFault_of_exchange result).status_mem

/-! ## A value that opens and one that does not -/

namespace Single

open Vault.Zeros

/-- A request of a sealed value alone. -/
def request (stored : String) : EnvMap := .ofList [("A", stored)]

theorem get?_request (stored : String) : (request stored).get? "A" = some stored := by
  unfold request
  rw [EnvMap.get?_ofList]
  rfl

theorem selection_request
    {stored : String}
    (isSealed : Envelope.isSealed stored = true) :
    Vault.selection (request stored) [] = ["A"] := by
  have isEntries : (request stored).entries = [("A", stored)] := rfl
  rw [Vault.selection_nil, isEntries]
  simp [isSealed]

theorem opened_of_outcome
    {stored plaintext : String}
    (opens : Vault.unsealValue "A" stored (Kem.expandSeed seed) = .ok plaintext)
    {result : Except Failure EnvMap}
    (outcome : DirectOutcome (request stored) (Kem.expandSeed seed) ["A"] result) :
    result = .ok (.ofList [("A", plaintext)]) := by
  have found := get?_request stored
  cases outcome with
  | opened _ gives =>
      obtain ⟨given, isGiven, held, alsoFound, opened⟩ := gives.opens "A" List.mem_cons_self
      obtain rfl := Option.some.inj (found.symm.trans alsoFound)
      obtain rfl := Except.ok.inj (opens.symm.trans opened)
      rw [← gives.ofList_eq, List.map_singleton, isGiven]
      rfl
  | failed first =>
      cases first with
      | here held isFailure =>
          obtain rfl := Option.some.inj (found.symm.trans held)
          cases opens.symm.trans isFailure
      | later _ first => cases first

theorem failed_of_outcome
    {stored : String}
    {failure : Failure}
    (fails : Vault.unsealValue "A" stored (Kem.expandSeed seed) = .error failure)
    {result : Except Failure EnvMap}
    (outcome : DirectOutcome (request stored) (Kem.expandSeed seed) ["A"] result) :
    result = .error failure := by
  have found := get?_request stored
  cases outcome with
  | opened _ gives =>
      obtain ⟨given, -, held, alsoFound, opened⟩ := gives.opens "A" List.mem_cons_self
      obtain rfl := Option.some.inj (found.symm.trans alsoFound)
      cases fails.symm.trans opened
  | failed first =>
      cases first with
      | here held isFailure =>
          obtain rfl := Option.some.inj (found.symm.trans held)
          obtain rfl := Except.error.inj (fails.symm.trans isFailure)
          rfl
      | later _ first => cases first

end Single

open Single Vault.Zeros in
/-- A value that was sealed for the key is opened, and a sealed value without a separator is
reported under its key. -/
theorem direct_all_or_none_undivided :
    (direct [107] (request (sealed "x")) keyWorld).1 = .ok (.ofList [("A", "x")]) ∧
      (direct [107] (request "OJSTER-1:nocolon") keyWorld).1 =
        .error (.malformedSealedValue "A" "missing separator between ciphertext segments") := by
  have isKey := loads_keyWorld
  rw [Vault.loadPrivateKey_eq] at isKey
  obtain ⟨⟨failure, noKey, -⟩ | ⟨decapsulator, alsoKey, unsealed⟩, -⟩ :=
    direct_all_or_none [107] keyWorld
  · cases isKey.symm.trans noKey
  · obtain rfl := Except.ok.inj (isKey.symm.trans alsoKey)
    have outcomes : ∀ stored, Envelope.isSealed stored = true →
        DirectOutcome (request stored) (Kem.expandSeed seed) ["A"]
          (direct [107] (request stored) keyWorld).1 := by
      intro stored isSealed
      obtain ⟨-, order, chooses, outcome⟩ := unsealed (request stored)
      rwa [chooses.eq_selection, selection_request isSealed] at outcome
    have sealing : Vault.Seals (Kem.expandSeed seed) "x" (sealed "x") :=
      seals (by decide) (.inl rfl)
    have unparsed : Envelope.parse "OJSTER-1:nocolon" = .error .missingSeparator := by decide
    have fails := Vault.unsealValue_of_unparsed "A" (Kem.expandSeed seed) (by decide) unparsed
    exact ⟨opened_of_outcome (sealing.unsealValue "A") (outcomes _ sealing.isSealed),
      failed_of_outcome fails (outcomes _ (by decide))⟩

end SealedEnv.Exchange
