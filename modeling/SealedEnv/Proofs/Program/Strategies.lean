import SealedEnv.Proofs.Exchange.Direct
import SealedEnv.Proofs.Program.OwnUnseal

/-!
Contract: whether values are opened in process or by the program itself, run as a command, makes no
difference.

Owns:
- the request as the command finds it: what is detected is read back from the env file;
- the result of the command, which is that of opening in process but for the words of failures;
- `strategies_agree`, for the results and for the replies.

Does not own: other commands.
-/

namespace SealedEnv

/-! ## Results without failures -/

theorem toOption_bind
    {cause value other : Type}
    (result : Except cause value)
    (next : value → Except cause other) :
    (result.bind next).toOption = result.toOption.bind fun found => (next found).toOption := by
  cases result <;> rfl

theorem toOption_map
    {cause value other : Type}
    (result : Except cause value)
    (step : value → other) :
    (result.map step).toOption = result.toOption.map step := by
  cases result <;> rfl

theorem toOption_eq_some_iff
    {cause value : Type}
    {result : Except cause value}
    {found : value} :
    result.toOption = some found ↔ result = .ok found := by
  cases result <;> simp [Except.toOption]

namespace Program

open Exchange

/-! ## The request in the directory -/

/-- Values that are detected are read back from the env file of their request. -/
theorem parse_printAll_detected
    {request : EnvMap}
    (validKeys : ∀ entry ∈ request.entries, isRequestKey entry.1 = true)
    (detected : ∀ entry ∈ request.entries, Envelope.detection.occursIn entry.2 = true) :
    EnvFile.parse (EnvFile.printAll request.entries) = request := by
  have same : request.entries.map (fun entry => (entry.1, EnvFile.readBack entry.2)) =
      request.entries := by
    conv => rhs; rw [← List.map_id request.entries]
    apply List.map_congr_left
    intro entry member
    rw [EnvFile.readBack_of_hasPlainEnds
      (Envelope.hasPlainEnds_of_detected (detected entry member))]
    rfl
  unfold EnvFile.parse
  rw [EnvFile.pairs_printAll validKeys, same, EnvMap.ofList_entries]

/-- The command opens what is opened in process. -/
theorem unsealSource_prepared
    {world prepared : World}
    {work : Place}
    {keyPath : Path}
    {data : Bytes}
    {request : EnvMap}
    (isPrepared : Prepared world work keyPath request prepared)
    (keyFile : world.store.LeadsToFile keyPath data)
    (readsBack : EnvFile.parse (EnvFile.printAll request.entries) = request) :
    ∃ result, Vault.unsealSource (.file requestPath) linkPath [] (surroundings prepared work) =
        (result, surroundings prepared work) ∧
      (result.map (·.values)).toOption = (direct keyPath request world).1.toOption := by
  have requestText : prepared.store.readText work requestPath =
      .ok (EnvFile.printAll request.entries) :=
    (isEntryPath_requestFile.entryAt prepared.store work).readText isPrepared.requestFile
  have keyText : prepared.store.readText work linkPath =
      world.store.readText world.here keyPath := by
    have isLink : linkPath = Path.dot ++ Path.slash :: Path.ofText keyLinkName := by decide
    rw [isLink]
    exact keyFile.readText_through_link isPrepared.keeps isEntryPath_keyLink
      isPrepared.keyLink world.here
  have entries : (Vault.Source.file requestPath).entries (surroundings prepared work) =
      (.ok (EnvFile.parse (EnvFile.printAll request.entries)), surroundings prepared work) :=
    Vault.entries_file (.inl requestText)
  rw [readsBack] at entries
  refine ⟨_, Vault.unsealSource_apply entries linkPath [], ?_⟩
  have sameText : (surroundings prepared work).store.readText (surroundings prepared work).here
      linkPath = world.store.readText world.here keyPath :=
    keyText
  rw [direct_apply, sameText]
  simp only [toOption_map, toOption_bind]
  rw [Vault.toOption_privateKeyOf linkPath.display keyPath.display,
    funext (Vault.unsealEntries_nil_congr (Vault.Source.file requestPath).origin "request" request)]

/-! ## The command -/

/-- A launcher whose commands take a given time, whatever they do. -/
def taking (elapsed : Span) (launch : Launcher) : Launcher := fun command world =>
  ((launch command world).1.map fun outcome => { outcome with elapsed }, (launch command world).2)

/-- In a directory that is there the command comes to the result of opening in process, but for the
words of a failure, and takes its time. -/
theorem delegated_own
    {request : EnvMap}
    (readsBack : EnvFile.parse (EnvFile.printAll request.entries) = request)
    {world : World}
    {keyPath executable : Path}
    {data : Bytes}
    (keyFile : world.store.LeadsToFile keyPath data)
    (own : IsOwnProgram world.store (Utf8.encode executable.display))
    (handable : Host.handingFault? [] world.environment = none)
    {work : Place}
    (made : (makeWorkFolder world).1 = .ok work)
    (grants : Action.Grants world 3)
    {limit elapsed : Span}
    (inTime : elapsed.nanos < limit.nanos) :
    ∃ result after, delegated (taking elapsed machine.launcher) (ownCommand executable) keyPath
        limit request world = (result, after) ∧
      result.toOption = (direct keyPath request world).1.toOption ∧
      after.clock = world.clock + elapsed.nanos := by
  obtain ⟨between, prepared, makes, fills, isPrepared⟩ :=
    prepared_of_made made grants keyFile.valid request
  obtain ⟨unsealed, unseals, same⟩ := unsealSource_prepared isPrepared keyFile readsBack
  have ownThere : IsOwnProgram (surroundings prepared work).store
      (Utf8.encode executable.display) :=
    own.keeps isPrepared.keeps
  have handed : Host.handingFault? ((executable.display :: ownArguments).map Utf8.encode)
      (surroundings prepared work).environment = none := by
    show Host.handingFault? _ (Variables.handedOn prepared.environment) = none
    rw [isPrepared.environment]
    apply Host.handingFault?_handedOn _ handable
    rw [List.map_cons]
    exact List.forall_mem_cons.mpr ⟨own.proper, proper_ownArguments⟩
  obtain ⟨_, launches⟩ := ownThere.launcher handed
  rw [List.map_cons, runLocal_ownArguments own.named unseals] at launches
  have takes : taking elapsed machine.launcher ⟨executable.display, ownArguments⟩
      (surroundings prepared work) =
        (.ok ⟨(unsealingReport unsealed).ending, (unsealingReport unsealed).output, elapsed⟩,
          surroundings prepared work) := by
    unfold taking
    rw [launches]
    rfl
  obtain ⟨after, delegates, later⟩ : ∃ after,
      delegated (taking elapsed machine.launcher) (ownCommand executable) keyPath limit request
        world = (Outcome.result limit ⟨(unsealingReport unsealed).ending,
          (unsealingReport unsealed).output, elapsed⟩, after) ∧
        after.clock = prepared.clock + min elapsed.nanos limit.nanos :=
    delegated_apply makes fills takes
  refine ⟨_, after, delegates, ?_, ?_⟩
  · rw [toOption_result inTime, same]
  · rw [later, isPrepared.clock, Nat.min_eq_left (Nat.le_of_lt inTime)]

/-! ## Both -/

theorem le_of_requestLimit?
    {limit requestLimit : Span}
    (limited : requestLimit? limit = some requestLimit) :
    limit.nanos ≤ requestLimit.nanos := by
  have isSum := requestLimit?_eq_some_iff.mp limited
  omega

/-- The reply of a service to a request to open the values of `body`. -/
def replyTo
    (unsealer : Unsealer (StateM World))
    (cap : Nat)
    (limit : Span)
    (started : Nat)
    (body : Bytes)
    (world : World) :
    Reply :=
  ((Service.mk unsealer cap limit started).respond ⟨"POST", "/", body⟩ world).1

/-- What the values of a request open to is released. -/
theorem replyTo_direct_of_opensTo
    {keyPath : Path}
    {cap : Nat}
    {limit : Span}
    {started : Nat}
    {request plain : EnvMap}
    {decapsulator : Kem.Decapsulator}
    {world : World}
    (loads : (Vault.loadPrivateKey keyPath world).1 = .ok decapsulator)
    (opens : Vault.OpensTo request plain decapsulator)
    (isAsked : Asked request plain)
    (fits : (Utf8.encode (FlatJson.encode request)).length ≤ cap)
    (allowed : ∀ key ∈ request.keys, isRequestKey key = true) :
    replyTo (direct keyPath) cap limit started (Utf8.encode (FlatJson.encode request)) world =
      .ofJson (FlatJson.encode plain) :=
  congrArg Prod.fst (respond_direct_of_opensTo loads opens isAsked fits allowed)

/-- Both report the same success, or neither reports one. -/
def Agree (left right : Reply) : Prop :=
  (left.status = 200 ∧ right.status = 200 ∧ left.body = right.body) ∨
    (left.status ≠ 200 ∧ right.status ≠ 200)

theorem Agree.success
    {left right : Reply}
    (agree : Agree left right)
    (succeeds : left.status = 200) :
    right.status = 200 := by
  cases agree with
  | inl both => exact both.2.1
  | inr neither => exact absurd succeeds neither.1

/-- Replies to one request agree if the results do. -/
theorem replies_agree
    {left right : Except Failure EnvMap}
    (same : left.toOption = right.toOption)
    (request : EnvMap) :
    Agree (.ofResult (left.bind (release request))) (.ofResult (right.bind (release request))) := by
  cases left with
  | error failure =>
      cases right with
      | error other => exact .inr ⟨status_ne_success failure, status_ne_success other⟩
      | ok values => contradiction
  | ok values =>
      cases right with
      | error other => contradiction
      | ok others =>
          cases same
          by_cases succeeds :
              (Reply.ofResult ((Except.ok values).bind (release request))).status = 200
          · exact .inl ⟨succeeds, succeeds, rfl⟩
          · exact .inr ⟨succeeds, succeeds⟩

/-- Opening a request in process and having the program itself open it as a command give the same
plaintexts or both fail, and the replies both report the same success or both report none.  This
holds for all values that the default pattern detects and for whatever the key file holds, if the
program and the key file are found, a directory can be made, and the command ends in time. -/
theorem strategies_agree
    {pattern : Pattern}
    (isDefault : Pattern.ofString? Envelope.detectionPattern = some pattern)
    {request : EnvMap}
    (validKeys : ∀ entry ∈ request.entries, isRequestKey entry.1 = true)
    (detected : ∀ entry ∈ request.entries, pattern.occursIn entry.2 = true)
    {world : World}
    {keyPath executable : Path}
    {data : Bytes}
    (keyFile : world.store.LeadsToFile keyPath data)
    (own : IsOwnProgram world.store (Utf8.encode executable.display))
    (handable : Host.handingFault? [] world.environment = none)
    {work : Place}
    (made : (makeWorkFolder world).1 = .ok work)
    (grants : Action.Grants world 3)
    (limit elapsed : Span)
    (inTime : elapsed.nanos < limit.nanos) :
    let inProcess := direct keyPath
    let asCommand :=
      delegated (taking elapsed machine.launcher) (ownCommand executable) keyPath limit
    (∀ values, (inProcess request world).1 = .ok values ↔
      (asCommand request world).1 = .ok values) ∧
    ∀ cap started requestLimit body, requestLimit? limit = some requestLimit →
      Admissible cap body request →
        Agree (replyTo inProcess cap requestLimit started body world)
          (replyTo asCommand cap requestLimit started body world) := by
  rw [Envelope.ofString?_detectionPattern] at isDefault
  cases isDefault
  intro inProcess asCommand
  have readsBack := parse_printAll_detected validKeys detected
  obtain ⟨result, after, delegates, same, later⟩ :=
    delegated_own readsBack keyFile own handable made grants inTime
  constructor
  · intro values
    have commanded : (asCommand request world).1 = result := congrArg Prod.fst delegates
    rw [← toOption_eq_some_iff, ← toOption_eq_some_iff, commanded, same]
  · intro cap started requestLimit body limited admissible
    have admitted := admission_eq_ok_iff.mpr admissible
    have directReply : replyTo inProcess cap requestLimit started body world =
        .ofResult ((direct keyPath request world).1.bind (release request)) :=
      congrArg Prod.fst (respond_direct admitted world)
    have inTime : after.clock = world.clock ∨ after.clock < world.clock + requestLimit.nanos := by
      have := le_of_requestLimit? limited
      omega
    have ownReply : replyTo asCommand cap requestLimit started body world =
        .ofResult (result.bind (release request)) :=
      congrArg Prod.fst (respond_unsealed rfl (path_root "POST" body) admitted delegates inTime)
    rw [directReply, ownReply]
    exact replies_agree same.symm request

/-! ## A machine with the program and a key -/

namespace Sample

open Vault.Zeros

/-- The program in `/ojster`, the key of the seed of zeros in `/k`, and a directory for passing
files. -/
def world : World :=
  { (default : World) with
    store := ⟨[(Host.placeOf ["tmp"], .directory),
      (Host.placeOf ["k"], .file 0o600 (Utf8.encode (Vault.keyFileText seed))),
      (Host.placeOf ["ojster"], .program programName)]⟩
    environment := [(Utf8.encode "PATH", Utf8.encode "/bin"),
      (Utf8.encode "OJSTER_X", Utf8.encode "1")] }

def keyPath : Path := Path.ofText "/k"

def ownPath : Path := Path.ofText "/ojster"

def request : EnvMap := .ofList [("A", sealed "x")]

/-- The program as a command that takes a second of the ten that it may take. -/
def asCommand : Unsealer (StateM World) :=
  delegated (taking (.ofSecs 1) machine.launcher) (ownCommand ownPath) keyPath (.ofSecs 10)

theorem keyFile :
    world.store.LeadsToFile keyPath (Utf8.encode (Vault.keyFileText seed)) where
  absolute := by decide
  valid := by decide
  leads := ⟨Host.placeOf ["k"], 0o600, by decide +kernel⟩

theorem own : IsOwnProgram world.store (Utf8.encode ownPath.display) := by
  have shown : Utf8.encode ownPath.display = ownPath := by decide +kernel
  rw [shown]
  exact
    { absolute := by decide
      leads := by decide +kernel
      named := by decide +kernel }

theorem handable : Host.handingFault? [] world.environment = none := by decide

theorem made : (makeWorkFolder world).1 = .ok (Host.placeOf ["tmp", "ojster-000000"]) := by
  decide +kernel

theorem grants : Action.Grants world 3 := by
  intro refusal member
  contradiction

theorem get?_request (key : String) :
    request.get? key = if key = "A" then some (sealed "x") else none :=
  EnvMap.get?_insert .empty "A" (sealed "x") key

theorem seals : Vault.Seals (Kem.expandSeed seed) "x" (sealed "x") :=
  Vault.Zeros.seals (by decide) (.inl rfl)

theorem detected (entry : String × String) (member : entry ∈ request.entries) :
    entry.1 = "A" ∧ Envelope.detection.occursIn entry.2 = true := by
  have found := (request.mem_entries_iff entry).mp member
  rw [get?_request] at found
  split_ifs at found with isKey
  obtain ⟨capsule, blob, isBuilt⟩ := seals.isBuilt
  rw [← Option.some.inj found]
  exact ⟨isKey, Envelope.detection_occursIn_build isBuilt⟩

theorem opensTo : Vault.OpensTo request (.ofList [("A", "x")]) (Kem.expandSeed seed) := by
  intro key
  have plain : (EnvMap.ofList [("A", "x")]).get? key = if key = "A" then some "x" else none :=
    EnvMap.get?_insert .empty "A" "x" key
  rw [get?_request, plain]
  by_cases isKey : key = "A"
  · rw [if_pos isKey, if_pos isKey]
    exact ⟨seals.isSealed, "x", rfl, seals.unsealValue key⟩
  · rw [if_neg isKey, if_neg isKey]

theorem isAsked : Asked request (.ofList [("A", "x")]) := by
  constructor
  · decide
  · intro key member
    have isKey : key ∈ ["A"] := (EnvMap.mem_keys_ofList_iff _ key).mp member
    exact (EnvMap.mem_keys_ofList_iff _ key).mpr isKey

theorem loads : (Vault.loadPrivateKey keyPath world).1 = .ok (Kem.expandSeed seed) := by
  have held : world.store.readText world.here keyPath = .ok (Vault.keyFileText seed) := by
    decide +kernel
  rw [Vault.loadPrivateKey_apply held]
  rfl

end Sample

open Sample in
/-- The command finds the request and the key in its directory, and its output is released. -/
theorem strategies_agree_sealed :
    (asCommand request world).1 = .ok (.ofList [("A", "x")]) ∧
      ∀ cap, (Utf8.encode (FlatJson.encode request)).length ≤ cap →
        (replyTo asCommand cap (.ofSecs 15) 0 (Utf8.encode (FlatJson.encode request))
          world).status = 200 := by
  have validKeys : ∀ entry ∈ request.entries, isRequestKey entry.1 = true := by
    intro entry member
    rw [(detected entry member).1]
    decide
  obtain ⟨same, replies⟩ := strategies_agree Envelope.ofString?_detectionPattern validKeys
    (fun entry member => (detected entry member).2) keyFile own handable made grants
    (.ofSecs 10) (.ofSecs 1) (by decide)
  constructor
  · apply (same _).mp
    rw [direct_of_opensTo loads opensTo]
  · intro cap fits
    have allowed : ∀ key ∈ request.keys, isRequestKey key = true := by
      intro key member
      obtain ⟨entry, inEntries, rfl⟩ := List.mem_map.mp member
      exact validKeys entry inEntries
    have released : (replyTo (direct keyPath) cap (.ofSecs 15) 0
        (Utf8.encode (FlatJson.encode request)) world).status = 200 := by
      rw [replyTo_direct_of_opensTo loads opensTo isAsked fits allowed]
      rfl
    have agree : Agree
        (replyTo (direct keyPath) cap (.ofSecs 15) 0 (Utf8.encode (FlatJson.encode request)) world)
        (replyTo asCommand cap (.ofSecs 15) 0 (Utf8.encode (FlatJson.encode request)) world) :=
      replies cap 0 (.ofSecs 15) _ (by decide)
        (admission_eq_ok_iff.mp (admission_encode fits allowed))
    exact agree.success released

end Program

end SealedEnv
