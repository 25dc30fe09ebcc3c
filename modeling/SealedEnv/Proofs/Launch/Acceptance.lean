import SealedEnv.Exchange.Socket
import SealedEnv.Launch.Selection
import SealedEnv.Proofs.Detection
import SealedEnv.Proofs.Exchange.Service

/-!
Contract: the two sides of the exchange read each other's messages alike, whatever unseals.

Owns:
- the requests of an environment, which are admitted wherever they fit;
- which replies are accepted, and what is told of the others;
- `accept_respond_select`, from the choice of the variables to the answer that is taken.

Does not own: what becomes of the plaintexts, or how often a request is made.
-/

namespace SealedEnv

open Exchange

namespace Exchange

/-! ## Replies -/

theorem status_bounds (failure : Failure) : 400 ≤ failure.status ∧ failure.status < 600 := by
  cases failure <;> simp [Failure.status]

/-- A reply with another status than that of success has the status of an error. -/
theorem Reply.error_of_ofResult
    {result : Except Failure EnvMap}
    (otherwise : (Reply.ofResult result).status ≠ 200) :
    400 ≤ (Reply.ofResult result).status := by
  cases result with
  | ok values => exact absurd rfl otherwise
  | error failure => exact (status_bounds failure).1

/-- A result that is withheld or released is no bad request. -/
theorem exists_of_badRequest
    {asked : EnvMap}
    {answer : Except Failure EnvMap}
    (badRequest : (Reply.ofResult (answer.bind (release asked))).status = 400) :
    ∃ failure, answer = .error failure ∧ failure.status = 400 := by
  cases answer with
  | error failure => exact ⟨failure, rfl, badRequest⟩
  | ok result =>
      rw [Except.bind] at badRequest
      rcases asked_cases asked result with isAsked | foreign | rfl
      · rw [release_asked isAsked] at badRequest
        cases badRequest
      · rw [release_unexpected foreign] at badRequest
        contradiction
      · rw [release_empty] at badRequest
        contradiction

/-- A request is replied to unless that takes too long. -/
theorem Service.respond_cases
    (service : Service)
    (request : Request)
    (world : World) :
    (service.respond request world).1 = .late ∨
      (service.respond request world).1 = (service.reply request world).1 := by
  by_cases late : world.clock < (service.reply request world).2.clock ∧
      world.clock + service.limit.nanos ≤ (service.reply request world).2.clock
  · left
    unfold respond
    generalize service.reply request = replying at late ⊢
    show ((if world.clock < (replying world).2.clock ∧
        world.clock + service.limit.nanos ≤ (replying world).2.clock then _
      else return (replying world).1 : StateM World Reply) (replying world).2).1 = _
    rw [if_pos late]
    rfl
  · right
    rw [respond_of_inTime late]

/-- Takes a reply if the deadline has not come. -/
def takeInTime (limit : Span) (deadline : Nat) (reply : Reply) : StateM World Launch.Attempt := do
  let after ← get
  if deadline ≤ after.clock then
    set { after with clock := deadline }
    return .error (.timedOut limit)
  else return .ok ⟨reply.status, reply.body⟩

theorem eq_of_takeInTime_eq_ok
    {limit : Span}
    {deadline : Nat}
    {reply : Reply}
    {after : World}
    {answer : Launch.Answer}
    (answered : (takeInTime limit deadline reply after).1 = .ok answer) :
    answer = ⟨reply.status, reply.body⟩ := by
  by_cases late : deadline ≤ after.clock
  · have isTimedOut : (takeInTime limit deadline reply after).1 = .error (.timedOut limit) := by
      simp only [takeInTime, bind, StateT.bind, get, getThe, MonadStateOf.get, StateT.get, pure]
      rw [if_pos late]
      rfl
    rw [isTimedOut] at answered
    contradiction
  · have inTime : (takeInTime limit deadline reply after).1 =
        .ok ⟨reply.status, reply.body⟩ := by
      simp only [takeInTime, bind, StateT.bind, get, getThe, MonadStateOf.get, StateT.get, pure]
      rw [if_neg late]
      rfl
    rw [inTime] at answered
    exact (Except.ok.inj answered).symm

/-- `post` with any limit, and with anything that replies. -/
def postWithin (limit : Span) (path : Path) (responding : StateM World Reply) :
    StateM World Launch.Attempt := do
  let world ← get
  match world.store.connect world.here path with
  | .error cause => return .error (.notConnected path cause)
  | .ok () => takeInTime limit (world.clock + limit.nanos) (← responding)

theorem post_eq_postWithin (service : Service) (path : Path) (request : EnvMap) :
    post service path request =
      postWithin attemptLimit path
        (service.respond ⟨"POST", "/", Utf8.encode (FlatJson.encode request)⟩) := rfl

/-- An answer that comes through the socket is the reply. -/
theorem eq_of_postWithin_eq_ok
    {limit : Span}
    {path : Path}
    {responding : StateM World Reply}
    {world : World}
    {answer : Launch.Answer}
    (answered : (postWithin limit path responding world).1 = .ok answer) :
    answer = ⟨(responding world).1.status, (responding world).1.body⟩ := by
  unfold postWithin at answered
  dsimp only [bind, StateT.bind, get, getThe, MonadStateOf.get, StateT.get, pure, StateT.pure]
    at answered
  cases connected : world.store.connect world.here path with
  | error cause =>
      rw [connected] at answered
      cases answered
  | ok done =>
      rw [connected] at answered
      exact eq_of_takeInTime_eq_ok answered

end Exchange

namespace Launch

/-! ## Requests -/

/-- Only variables under request keys are sent. -/
theorem isRequestKey_of_mem_keys_select
    {environment : List Variable}
    {pattern : Pattern}
    {key : String}
    (member : key ∈ (select environment pattern).keys) :
    isRequestKey key = true := by
  unfold select at member
  obtain ⟨entry, chosen, rfl⟩ := List.mem_map.mp ((EnvMap.mem_keys_ofList_iff _ key).mp member)
  have isChosen := (List.mem_filter.mp chosen).2
  simp only [Launch.isChosen, Bool.and_eq_true] at isChosen
  exact isChosen.1

/-! ## Acceptance -/

/-- What is accepted is an answer that reports success, holds an object of texts, and names nothing
but what was asked for. -/
theorem accept_eq_ok_iff
    {attempt : Attempt}
    {request values : EnvMap} :
    accept attempt request = .ok values ↔
      ∃ answer, attempt = .ok answer ∧ 200 ≤ answer.status ∧ answer.status < 300 ∧
        FlatJson.decode? answer.body = some values ∧ ∀ key ∈ values.keys, key ∈ request.keys := by
  cases attempt with
  | error failure => simp [accept]
  | ok answer =>
      have inRange : (decide (answer.status < 200) || decide (300 ≤ answer.status)) = false ↔
          200 ≤ answer.status ∧ answer.status < 300 := by
        simp
      have noForeign : ∀ found : EnvMap, (found.keys.any fun key => !request.contains key) = false ↔
          ∀ key ∈ found.keys, key ∈ request.keys := by
        intro found
        simp [EnvMap.contains_eq_true_iff]
      constructor
      · intro accepted
        unfold accept at accepted
        simp only [] at accepted
        split_ifs at accepted with outOfRange
        cases decoded : FlatJson.decode? answer.body with
        | none => simp [decoded] at accepted
        | some found =>
            simp only [decoded] at accepted
            split_ifs at accepted with foreign
            cases accepted
            obtain ⟨low, high⟩ := inRange.mp (by simpa using outOfRange)
            exact ⟨answer, rfl, low, high, decoded, (noForeign _).mp (by simpa using foreign)⟩
      · rintro ⟨_, same, low, high, decoded, asked⟩
        cases same
        unfold accept
        simp only [inRange.mpr ⟨low, high⟩, decoded, (noForeign values).mpr asked,
          Bool.false_eq_true, if_false]

/-- A reply with plaintexts that were asked for is accepted. -/
theorem accept_encode
    {request values : EnvMap}
    (asked : ∀ key ∈ values.keys, key ∈ request.keys) :
    accept (.ok ⟨200, Utf8.encode (FlatJson.encode values)⟩) request = .ok values := by
  have isSuccess : 200 ≤ 200 ∧ 200 < 300 := by decide
  exact accept_eq_ok_iff.mpr
    ⟨_, rfl, isSuccess.1, isSuccess.2, FlatJson.decode?_encode values, asked⟩

/-- Of a reply that reports an error nothing but the status is told. -/
theorem accept_of_error
    {status : Nat}
    (isError : 400 ≤ status)
    (body : Bytes)
    (request : EnvMap) :
    accept (.ok ⟨status, body⟩) request = .error (.status status) := by
  have outOfRange : (decide (status < 200) || decide (300 ≤ status)) = true := by
    simp only [Bool.or_eq_true, decide_eq_true_eq]
    omega
  unfold accept
  simp only []
  rw [if_pos outOfRange]

/-- Let the request for an environment fit the cap of a service.  Then it is admitted, so that it is
a bad request only where the unsealer calls it one; a reply of success is accepted as just what the
unsealer returned; and of any other reply nothing but its status is told.  What comes through a
socket is this reply. -/
theorem accept_respond_select
    (environment : List Variable)
    (pattern : Pattern)
    (service : Service)
    (world : World)
    (fits : (Utf8.encode (FlatJson.encode (select environment pattern))).length ≤
      service.bodyCap) :
    let request := select environment pattern
    let body := Utf8.encode (FlatJson.encode request)
    let unsealed := (service.unsealer request world).1
    let reply := (service.respond ⟨"POST", "/", body⟩ world).1
    (∀ path answer, (post service path request world).1 = .ok answer →
      answer = ⟨reply.status, reply.body⟩) ∧
    admission service.bodyCap body = .ok request ∧
    (reply.status = 400 → ∃ failure, unsealed = .error failure ∧ failure.status = 400) ∧
    (reply.status = 200 → ∃ result, unsealed = .ok result ∧
      accept (.ok ⟨reply.status, reply.body⟩) request = .ok result) ∧
    (reply.status ≠ 200 → 400 ≤ reply.status ∧ ∀ anyBody,
      accept (.ok ⟨reply.status, anyBody⟩) request = .error (.status reply.status)) := by
  intro request body unsealed reply
  have admitted : admission service.bodyCap body = .ok request :=
    admission_encode fits fun key member => isRequestKey_of_mem_keys_select member
  have replied : reply = .late ∨ reply = .ofResult (unsealed.bind (release request)) := by
    have isUnsealing : route "POST" (Request.mk "POST" "/" body).path = .unsealing :=
      Service.route_eq_unsealing_iff.mpr ⟨rfl, path_root "POST" body⟩
    have isReply := Service.reply_unsealing service isUnsealing world
    rw [exchange_admitted admitted] at isReply
    rcases service.respond_cases ⟨"POST", "/", body⟩ world with isLate | inTime
    · exact .inl isLate
    · exact .inr (inTime.trans (congrArg Prod.fst isReply))
  refine ⟨?_, admitted, ?_, ?_, ?_⟩
  · intro path answer answered
    rw [post_eq_postWithin] at answered
    exact eq_of_postWithin_eq_ok answered
  · intro badRequest
    rcases replied with isLate | isResult
    · rw [isLate] at badRequest
      contradiction
    · rw [isResult] at badRequest
      exact exists_of_badRequest badRequest
  · intro succeeded
    rcases replied with isLate | isResult
    · rw [isLate] at succeeded
      contradiction
    · rw [isResult] at succeeded ⊢
      obtain ⟨result, isUnsealed, isAsked⟩ := status_ofResult_release_iff.mp succeeded
      refine ⟨result, isUnsealed, ?_⟩
      rw [isUnsealed, Except.bind, release_asked isAsked]
      exact accept_encode isAsked.2
  · intro otherwise
    have isError : 400 ≤ reply.status := by
      rcases replied with isLate | isResult
      · rw [isLate]
        decide
      · rw [isResult] at otherwise ⊢
        exact Reply.error_of_ofResult otherwise
    exact ⟨isError, fun anyBody => accept_of_error isError anyBody request⟩

/-- The one variable of this environment is sent, and comes back as `x`. -/
theorem accept_respond_select_sample :
    let environment : List Variable := [(Utf8.encode "A", Utf8.encode "OJSTER-1:a:b")]
    let request := select environment Envelope.detection
    let service : Service :=
      ⟨marking (fun _ store => store) fun _ => .ok (.ofList [("A", "x")]), 32, .longest, 0⟩
    let reply := (service.respond
      ⟨"POST", "/", Utf8.encode (FlatJson.encode request)⟩ default).1
    request = .ofList [("A", "OJSTER-1:a:b")] ∧ reply.status = 200 ∧
      accept (.ok ⟨reply.status, reply.body⟩) request = .ok (.ofList [("A", "x")]) := by
  intro environment request service reply
  have selected : request = .ofList [("A", "OJSTER-1:a:b")] := by decide
  have fits : (Utf8.encode (FlatJson.encode request)).length ≤ service.bodyCap := by
    rw [selected]
    decide
  obtain ⟨-, admitted, -, success, -⟩ :=
    accept_respond_select environment Envelope.detection service default fits
  have isAsked : Asked request (.ofList [("A", "x")]) := by
    rw [selected]
    constructor <;> decide
  have replied : reply = .ofResult (release request (.ofList [("A", "x")])) :=
    congrArg Prod.fst (respond_admitted rfl (path_root "POST" _) admitted)
  have succeeded : reply.status = 200 := by
    rw [replied, release_asked isAsked]
    rfl
  obtain ⟨result, isUnsealed, accepted⟩ := success succeeded
  cases isUnsealed
  exact ⟨selected, succeeded, accepted⟩

end Launch

end SealedEnv
