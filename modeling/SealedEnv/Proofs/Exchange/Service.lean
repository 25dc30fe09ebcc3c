import Mathlib.Algebra.Group.Nat.Defs
import SealedEnv.Exchange.Service
import SealedEnv.Proofs.Exchange.Admission

/-!
Contract: the exchange releases nothing but what was asked for and what its unsealer returned.

Owns:
- the limit of requests above that of subprocesses, if there is one;
- which requests reach the unsealer, and how often;
- the reply to each of its results;
- `post_releases_asked_only`, for any unsealer whatever it does to the store.

Does not own: what unsealers return.
-/

namespace SealedEnv.Exchange

/-! ## Limits -/

/-- There is a limit of requests if five seconds more are still a span, and these are it. -/
theorem requestLimit?_eq_some_iff {subprocessLimit limit : Span} :
    requestLimit? subprocessLimit = some limit ↔
      limit.nanos = subprocessLimit.nanos + 5 * 10 ^ 9 := by
  have isSlack : slack.nanos = 5 * 10 ^ 9 := by decide
  unfold requestLimit? Span.add? Span.ofNanos?
  rw [isSlack]
  constructor
  · intro limited
    split at limited
    · cases limited
      rfl
    · contradiction
  · intro isSum
    have bounded := limit.bounded
    rw [isSum] at bounded
    rw [dif_pos bounded, Option.some.injEq]
    cases limit
    cases isSum
    rfl

section Exchange

variable {state : Type} {unsealer : Unsealer (StateM state)} {cap : Nat} {body : Bytes}

theorem exchange_refused
    {failure : Failure}
    (refused : admission cap body = .error failure)
    (before : state) :
    exchange unsealer cap body before = (.error failure, before) := by
  unfold exchange
  rw [refused]
  rfl

/-- An admitted request is unsealed once, and what comes back is released or withheld. -/
theorem exchange_admitted
    {asked : EnvMap}
    (admitted : admission cap body = .ok asked)
    (before : state) :
    exchange unsealer cap body before =
      ((unsealer asked before).1.bind (release asked), (unsealer asked before).2) := by
  unfold exchange
  rw [admitted]
  dsimp only [bind, StateT.bind]
  obtain ⟨result, after⟩ := unsealer asked before
  cases result <;> rfl

end Exchange

/-! ## Replies -/

theorem path_root (method : String) (body : Bytes) : (Request.mk method "/" body).path = "/" := by
  show String.ofList ("/".toList.takeWhile fun c => c ≠ '?' && c ≠ '#') = "/"
  decide

namespace Service

theorem route_eq_unsealing_iff {method path : String} :
    route method path = .unsealing ↔ method = "POST" ∧ path = "/" := by
  unfold route
  by_cases isRoot : path = "/"
  · by_cases isPost : method = "POST" <;> simp [isRoot, isPost]
  · simp only [isRoot, if_false, and_false, iff_false]
    split_ifs <;> simp

/-- The reply of the unsealing route reports the result of the exchange. -/
theorem reply_unsealing
    (service : Service)
    {request : Request}
    (isUnsealing : route request.method request.path = .unsealing)
    (world : World) :
    service.reply request world =
      (.ofResult (exchange service.unsealer service.bodyCap request.body world).1,
        (exchange service.unsealer service.bodyCap request.body world).2) := by
  unfold reply
  rw [isUnsealing]
  rfl

/-- No other route changes anything. -/
theorem reply_otherwise
    (service : Service)
    {request : Request}
    (otherwise : route request.method request.path ≠ .unsealing)
    (world : World) :
    (service.reply request world).2 = world := by
  unfold reply
  cases isRoute : route request.method request.path with
  | unsealing => exact absurd isRoute otherwise
  | health headOnly => rfl
  | notAllowed methods => rfl
  | notFound => rfl

/-- A request that took less than the limit, or no time, is not given up. -/
theorem respond_of_inTime
    {service : Service}
    {request : Request}
    {world : World}
    (inTime : ¬(world.clock < (service.reply request world).2.clock ∧
      world.clock + service.limit.nanos ≤ (service.reply request world).2.clock)) :
    service.respond request world = service.reply request world := by
  unfold respond
  generalize service.reply request = replying at inTime ⊢
  show (if world.clock < (replying world).2.clock ∧
      world.clock + service.limit.nanos ≤ (replying world).2.clock then _
    else return (replying world).1 : StateM World Reply) (replying world).2 = _
  rw [if_neg inTime]
  rfl

theorem respond_of_clock
    {service : Service}
    {request : Request}
    {world : World}
    (noTime : (service.reply request world).2.clock = world.clock) :
    service.respond request world = service.reply request world := by
  apply respond_of_inTime
  omega

end Service

theorem status_ne_success (failure : Failure) : failure.status ≠ 200 := by
  cases failure <;> simp [Failure.status]

/-- Success is reported for what was unsealed and asked for, and for nothing else. -/
theorem status_ofResult_release_iff
    {asked : EnvMap}
    {answer : Except Failure EnvMap} :
    (Reply.ofResult (answer.bind (release asked))).status = 200 ↔
      ∃ result, answer = .ok result ∧ Asked asked result := by
  constructor
  · intro succeeded
    cases answer with
    | error failure => exact absurd succeeded (status_ne_success failure)
    | ok result =>
        rw [Except.bind] at succeeded
        rcases asked_cases asked result with isAsked | foreign | rfl
        · exact ⟨result, rfl, isAsked⟩
        · rw [release_unexpected foreign] at succeeded
          exact absurd succeeded (status_ne_success .unexpectedKeysReturned)
        · rw [release_empty] at succeeded
          exact absurd succeeded (status_ne_success .noAcceptableEntries)
  · rintro ⟨result, rfl, isAsked⟩
    rw [Except.bind, release_asked isAsked]
    rfl

/-- An admitted request that is posted to the root is unsealed once, and the reply reports what came
of it unless that took too long. -/
theorem respond_unsealed
    {unsealer : Unsealer (StateM World)}
    {cap : Nat}
    {limit : Span}
    {started : Nat}
    {request : Request}
    (isPost : request.method = "POST")
    (isRoot : request.path = "/")
    {asked : EnvMap}
    (admitted : admission cap request.body = .ok asked)
    {world after : World}
    {result : Except Failure EnvMap}
    (unseals : unsealer asked world = (result, after))
    (inTime : after.clock = world.clock ∨ after.clock < world.clock + limit.nanos) :
    (Service.mk unsealer cap limit started).respond request world =
      (.ofResult (result.bind (release asked)), after) := by
  have isUnsealing := Service.route_eq_unsealing_iff.mpr ⟨isPost, isRoot⟩
  have replied := Service.reply_unsealing ⟨unsealer, cap, limit, started⟩ isUnsealing world
  have exchanged : exchange unsealer cap request.body world =
      (result.bind (release asked), after) := by
    rw [exchange_admitted admitted, unseals]
  rw [exchanged] at replied
  rw [Service.respond_of_inTime, replied]
  rw [replied]
  show ¬(world.clock < after.clock ∧ world.clock + limit.nanos ≤ after.clock)
  omega

/-! ## Any unsealer -/

/-- An unsealer that answers as a function does, and leaves a mark in the store whenever it is
called. -/
def marking (mark : EnvMap → Store → Store) (unsealed : EnvMap → Except Failure EnvMap) :
    Unsealer (StateM World) :=
  fun asked world => (unsealed asked, { world with store := mark asked world.store })

section Marking

variable
  {mark : EnvMap → Store → Store}
  {unsealed : EnvMap → Except Failure EnvMap}
  {cap : Nat}
  {limit : Span}
  {started : Nat}
  {request : Request}
  {world : World}

theorem respond_elsewhere
    (elsewhere : ¬(request.method = "POST" ∧ request.path = "/")) :
    ((Service.mk (marking mark unsealed) cap limit started).respond request world).2 = world := by
  have otherwise : route request.method request.path ≠ .unsealing :=
    fun isUnsealing => elsewhere (Service.route_eq_unsealing_iff.mp isUnsealing)
  have unchanged :=
    Service.reply_otherwise ⟨marking mark unsealed, cap, limit, started⟩ otherwise world
  rw [Service.respond_of_clock (by rw [unchanged]), unchanged]

theorem respond_refused
    {failure : Failure}
    (isPost : request.method = "POST")
    (isRoot : request.path = "/")
    (refused : admission cap request.body = .error failure) :
    (Service.mk (marking mark unsealed) cap limit started).respond request world =
      (.ofResult (.error failure), world) := by
  have isUnsealing := Service.route_eq_unsealing_iff.mpr ⟨isPost, isRoot⟩
  have replied :=
    Service.reply_unsealing ⟨marking mark unsealed, cap, limit, started⟩ isUnsealing world
  rw [exchange_refused refused] at replied
  rw [Service.respond_of_clock (by rw [replied]), replied]

theorem respond_admitted
    {asked : EnvMap}
    (isPost : request.method = "POST")
    (isRoot : request.path = "/")
    (admitted : admission cap request.body = .ok asked) :
    (Service.mk (marking mark unsealed) cap limit started).respond request world =
      (.ofResult ((unsealed asked).bind (release asked)),
        { world with store := mark asked world.store }) :=
  respond_unsealed isPost isRoot admitted rfl (.inl rfl)

/-- A request is unsealed once if it is posted to the root and admissible, and else not at all; in
that case it is a bad request.  What was unsealed leaves as it is if it names nothing but what was
asked for, and something.  Of any other result the reply tells only whether it was empty, and of a
failure its words. -/
theorem post_releases_asked_only
    (mark : EnvMap → Store → Store)
    (unsealed : EnvMap → Except Failure EnvMap)
    (cap : Nat)
    (limit : Span)
    (started : Nat)
    (request : Request)
    (world : World) :
    let outcome := (Service.mk (marking mark unsealed) cap limit started).respond request world
    (¬(request.method = "POST" ∧ request.path = "/") → outcome.2 = world) ∧
    (request.method = "POST" → request.path = "/" →
      ((¬∃ asked, Admissible cap request.body asked) →
        outcome.2 = world ∧ outcome.1.status = 400) ∧
      ∀ asked, Admissible cap request.body asked →
        outcome.2 = { world with store := mark asked world.store } ∧
        (outcome.1.status = 200 ↔ ∃ result, unsealed asked = .ok result ∧ Asked asked result) ∧
        (∀ result, unsealed asked = .ok result →
          (Asked asked result → outcome.1.body = Utf8.encode (FlatJson.encode result) ∧
            FlatJson.decode? outcome.1.body = some result) ∧
          ((∃ key ∈ result.keys, key ∉ asked.keys) →
            outcome.1 = .ofText 502 "decryption backend returned unexpected keys\n") ∧
          (result = .empty →
            outcome.1 = .ofText 502 "decryption produced no acceptable env entries\n")) ∧
        ∀ failure, unsealed asked = .error failure →
          outcome.1.status = failure.status ∧
            outcome.1.body = Utf8.encode (failure.message ++ "\n")) := by
  intro outcome
  refine ⟨respond_elsewhere, ?_⟩
  intro isPost isRoot
  constructor
  · intro notAdmissible
    cases admitted : admission cap request.body with
    | ok asked => exact absurd ⟨asked, admission_eq_ok_iff.mp admitted⟩ notAdmissible
    | error failure =>
        have replied : outcome = _ := respond_refused isPost isRoot admitted
        rw [replied]
        exact ⟨rfl, status_of_admission_error admitted⟩
  · intro asked admissible
    have replied : outcome = _ :=
      respond_admitted isPost isRoot (admission_eq_ok_iff.mpr admissible)
    rw [replied]
    refine ⟨rfl, status_ofResult_release_iff, ?_, ?_⟩
    · intro result isUnsealed
      rw [isUnsealed, Except.bind]
      refine ⟨?_, ?_, ?_⟩
      · intro isAsked
        rw [release_asked isAsked]
        exact ⟨rfl, FlatJson.decode?_encode result⟩
      · intro foreign
        rw [release_unexpected foreign]
        rfl
      · rintro rfl
        rw [release_empty]
        rfl
    · intro failure isUnsealed
      rw [isUnsealed]
      exact ⟨rfl, rfl⟩

end Marking

/-! ## Replies that withhold a result -/

def sampleBody : Bytes := Utf8.encode "\x7b\"A\":\"s\"\x7d"

theorem admission_sampleBody :
    admission 64 sampleBody = .ok (.ofList [("A", "s")]) := by
  decide

/-- The reply to the body that asks for one key, of an unsealer that returns `result` for it. -/
def sampleReply (result : EnvMap) : Reply :=
  ((Service.mk (marking (fun _ store => store) fun _ => .ok result) 64 .longest 0).respond
    ⟨"POST", "/", sampleBody⟩ default).1

theorem sampleReply_eq (result : EnvMap) :
    sampleReply result = .ofResult (release (.ofList [("A", "s")]) result) := by
  unfold sampleReply
  rw [respond_admitted rfl (by decide) admission_sampleBody]
  rfl

/-- An empty result is told from one that names too much. -/
theorem withheld_replies_differ :
    (∃ key ∈ (EnvMap.ofList [("B", "x")]).keys, key ∉ (EnvMap.ofList [("A", "s")]).keys) ∧
      (sampleReply (.ofList [("B", "x")])).status = 502 ∧ (sampleReply .empty).status = 502 ∧
      (sampleReply (.ofList [("B", "x")])).body ≠ (sampleReply .empty).body := by
  rw [sampleReply_eq, sampleReply_eq]
  refine ⟨⟨"B", by decide, by decide⟩, by decide, by decide, by decide⟩

/-- A value that was asked for comes back, and the unsealer was called for it. -/
theorem post_releases_asked_only_sample :
    Admissible 64 sampleBody (.ofList [("A", "s")]) ∧
      (sampleReply (.ofList [("A", "x")])).status = 200 ∧
      FlatJson.decode? (sampleReply (.ofList [("A", "x")])).body = some (.ofList [("A", "x")]) := by
  have admissible := admission_eq_ok_iff.mp admission_sampleBody
  have isAsked : Asked (.ofList [("A", "s")]) (.ofList [("A", "x")]) := by
    constructor <;> decide
  obtain ⟨-, posted⟩ := post_releases_asked_only (fun _ store => store)
    (fun _ => .ok (.ofList [("A", "x")])) 64 .longest 0 ⟨"POST", "/", sampleBody⟩ default
  obtain ⟨-, success, released, -⟩ := (posted rfl (by decide)).2 _ admissible
  exact ⟨admissible, success.mpr ⟨_, rfl, isAsked⟩, ((released _ rfl).1 isAsked).2⟩

end SealedEnv.Exchange
