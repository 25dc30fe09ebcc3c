import Mathlib.Algebra.Group.Nat.Defs
import SealedEnv.Launch.Retry
import SealedEnv.Proofs.Launch.Acceptance

/-!
Contract: how often a request is made, and how long is waited in between.

Owns:
- the waits of a policy in closed form, to which no bound on spans matters;
- the two turns that the loop can take, whatever makes the attempts;
- `fetch_takes_first_accepted`, for attempts whose outcomes are given.

Does not own: what makes an attempt, or what becomes of the plaintexts.
-/

namespace SealedEnv.Launch

/-! ## Waits -/

/-- The wait after so many rejected attempts and one more. -/
def Policy.waitAt (policy : Policy) : Nat → Span
  | 0 => policy.first
  | rounds + 1 => policy.next (policy.waitAt rounds)

/-- The nanoseconds of a wait: the first one as it is given, and after it twice as many each time,
up to those of the longest wait. -/
def Policy.delay (policy : Policy) : Nat → Nat
  | 0 => policy.first.nanos
  | rounds + 1 => min (policy.first.nanos * 2 ^ (rounds + 1)) policy.longest.nanos

/-- No span is long enough for the bound of all spans to matter. -/
theorem Policy.nanos_next (policy : Policy) (wait : Span) :
    (policy.next wait).nanos = min (wait.nanos * 2) policy.longest.nanos := by
  have bounded := policy.longest.nanos_le
  unfold next Span.double
  rw [Span.nanos_min, Span.nanos_saturating]
  show min (min (2 * wait.nanos) (Span.bound - 1)) policy.longest.nanos = _
  omega

theorem Policy.nanos_waitAt (policy : Policy) (rounds : Nat) :
    (policy.waitAt rounds).nanos = policy.delay rounds := by
  induction rounds with
  | zero => rfl
  | succ rounds inductionHypothesis =>
      rw [waitAt, nanos_next, inductionHypothesis]
      cases rounds with
      | zero => rfl
      | succ rounds =>
          -- A wait that was cut to the longest one is cut to it again.
          show min (min (policy.first.nanos * 2 ^ (rounds + 1)) policy.longest.nanos * 2)
            policy.longest.nanos = min (policy.first.nanos * 2 ^ (rounds + 2)) policy.longest.nanos
          rw [Nat.pow_succ _ (rounds + 1), ← Nat.mul_assoc]
          omega

/-! ## Turns -/

section Turns

variable {state : Type} {post : StateM state Attempt} {pause : Span → StateM state Unit}
  {policy : Policy} {request : EnvMap} {start between : state} {attempt : Attempt}

theorem fetchAfter_of_accepted
    (posts : post start = (attempt, between))
    {values : EnvMap}
    (accepted : accept attempt request = .ok values)
    (attempts : Nat)
    (wait : Span) :
    fetchAfter post pause policy request (attempts + 1) wait start = (some values, between) := by
  rw [fetchAfter]
  simp only [bind, StateT.bind, posts, accepted]
  rfl

theorem fetchAfter_of_rejected
    (posts : post start = (attempt, between))
    {reason : Rejection}
    (rejected : accept attempt request = .error reason)
    (attempts : Nat)
    (wait : Span) :
    fetchAfter post pause policy request (attempts + 1) wait start =
      fetchAfter post pause policy request attempts (policy.next wait)
        (pause wait between).2 := by
  rw [fetchAfter]
  simp only [bind, StateT.bind, posts, rejected]
  rfl

end Turns

/-! ## Whole courses -/

/-- What is done in the course of a request. -/
inductive Act where
  | posted (request : EnvMap)
  | waited (span : Span)

def Act.request? : Act → Option EnvMap
  | posted request => some request
  | waited _ => none

def Act.wait? : Act → Option Span
  | posted _ => none
  | waited span => some span

/-- An attempt, which is noted, and whose outcome is the next one of those that will come. -/
def posting (outcomes : Nat → Attempt) (request : EnvMap) : StateM (List Act) Attempt := fun log =>
  (outcomes (log.filterMap Act.request?).length, log ++ [.posted request])

/-- A wait, which is noted. -/
def pausing (span : Span) : StateM (List Act) Unit := fun log => ((), log ++ [.waited span])

/-- So many attempts, with the wait of a policy after each of them. -/
def rounds (policy : Policy) (request : EnvMap) : Nat → List Act
  | 0 => []
  | count + 1 => rounds policy request count ++ [.posted request] ++ [.waited (policy.waitAt count)]

theorem filterMap_request?_rounds (policy : Policy) (request : EnvMap) (count : Nat) :
    (rounds policy request count).filterMap Act.request? = List.replicate count request := by
  induction count with
  | zero => rfl
  | succ count inductionHypothesis =>
      rw [rounds, List.append_assoc, List.filterMap_append, inductionHypothesis,
        List.replicate_succ']
      rfl

theorem filterMap_wait?_rounds (policy : Policy) (request : EnvMap) (count : Nat) :
    (rounds policy request count).filterMap Act.wait? = (List.range count).map policy.waitAt := by
  induction count with
  | zero => rfl
  | succ count inductionHypothesis =>
      rw [rounds, List.append_assoc, List.filterMap_append, inductionHypothesis,
        List.range_succ, List.map_append]
      rfl

section Courses

variable {policy : Policy} {request : EnvMap} {outcomes : Nat → Attempt}

theorem posting_rounds (count : Nat) :
    posting outcomes request (rounds policy request count) =
      (outcomes count, rounds policy request count ++ [.posted request]) := by
  unfold posting
  rw [filterMap_request?_rounds, List.length_replicate]

/-- While attempts are rejected the loop goes on, and waits longer and longer. -/
theorem fetch_of_rejected
    {count : Nat}
    (rejected : ∀ round < count, ∃ reason, accept (outcomes round) request = .error reason)
    (attempts : Nat) :
    fetch (posting outcomes request) pausing policy request (count + attempts) [] =
      fetchAfter (posting outcomes request) pausing policy request attempts (policy.waitAt count)
        (rounds policy request count) := by
  induction count generalizing attempts with
  | zero =>
      rw [Nat.zero_add]
      rfl
  | succ count inductionHypothesis =>
      have earlier : ∀ round < count, ∃ reason, accept (outcomes round) request = .error reason :=
        fun round before => rejected round (Nat.lt_succ_of_lt before)
      obtain ⟨reason, isRejected⟩ := rejected count (Nat.lt_succ_self count)
      rw [Nat.add_right_comm, Nat.add_assoc, inductionHypothesis earlier,
        fetchAfter_of_rejected (posting_rounds count) isRejected]
      rfl

end Courses

/-- Let the first attempt that is accepted be the one after so many others.  Then the loop makes
these attempts and no more, waits between them for the first wait of the policy and then twice as
long each time, up to its longest wait, and returns the plaintexts of that attempt: an answer that
reports success and names nothing but what was asked for.  Up to there it returns nothing. -/
theorem fetch_takes_first_accepted
    (policy : Policy)
    {request values : EnvMap}
    {outcomes : Nat → Attempt}
    {count : Nat}
    (rejected : ∀ round < count, ∃ reason, accept (outcomes round) request = .error reason)
    (accepted : accept (outcomes count) request = .ok values) :
    (∀ attempts, count < attempts → ∃ log,
      fetch (posting outcomes request) pausing policy request attempts [] = (some values, log) ∧
        log.filterMap Act.request? = List.replicate (count + 1) request ∧
        (log.filterMap Act.wait?).map Span.nanos = (List.range count).map policy.delay) ∧
    (∀ attempts ≤ count,
      (fetch (posting outcomes request) pausing policy request attempts []).1 = none) ∧
    ∃ answer, outcomes count = .ok answer ∧ 200 ≤ answer.status ∧ answer.status < 300 ∧
      FlatJson.decode? answer.body = some values ∧ ∀ key ∈ values.keys, key ∈ request.keys := by
  refine ⟨?_, ?_, ?_⟩
  · intro attempts enough
    obtain ⟨spare, rfl⟩ := Nat.exists_eq_add_of_lt enough
    refine ⟨rounds policy request count ++ [.posted request], ?_, ?_, ?_⟩
    · rw [Nat.add_assoc, fetch_of_rejected rejected,
        fetchAfter_of_accepted (posting_rounds count) accepted]
    · rw [List.filterMap_append, filterMap_request?_rounds, List.replicate_succ']
      rfl
    · rw [List.filterMap_append, filterMap_wait?_rounds]
      simp only [List.filterMap_cons, Act.wait?, List.filterMap_nil, List.append_nil, List.map_map]
      apply List.map_congr_left
      intro round _
      exact policy.nanos_waitAt round
  · intro attempts tooFew
    have allRejected : ∀ round < attempts, ∃ reason,
        accept (outcomes round) request = .error reason :=
      fun round before => rejected round (Nat.lt_of_lt_of_le before tooFew)
    rw [← Nat.add_zero attempts, fetch_of_rejected allRejected]
    rfl
  · exact accept_eq_ok_iff.mp accepted

/-- An attempt that is never answered, an error, a name that was not asked for, and then the
plaintext. -/
def sampleOutcomes : Nat → Attempt
  | 0 => .error (.timedOut (.ofSecs 15))
  | 1 => .ok ⟨502, Utf8.encode "\x7b\"A\":\"x\"\x7d"⟩
  | 2 => .ok ⟨200, Utf8.encode "\x7b\"A\":\"x\",\"B\":\"y\"\x7d"⟩
  | _ => .ok ⟨201, Utf8.encode "\x7b\"A\":\"x\"\x7d"⟩

/-- The first wait is half of what no span reaches, and it cannot be doubled. -/
theorem fetch_takes_first_accepted_longest :
    let policy : Policy := ⟨.ofSecs (2 ^ 63), .longest⟩
    let request : EnvMap := .ofList [("A", "OJSTER-1:a:b")]
    ∃ log, fetch (posting sampleOutcomes request) pausing policy request 100 [] =
        (some (.ofList [("A", "x")]), log) ∧
      log.filterMap Act.request? = [request, request, request, request] ∧
      (log.filterMap Act.wait?).map Span.nanos =
        [2 ^ 63 * 10 ^ 9, 2 ^ 64 * 10 ^ 9 - 1, 2 ^ 64 * 10 ^ 9 - 1] := by
  intro policy request
  have rejected : ∀ round < 3, ∃ reason,
      accept (sampleOutcomes round) request = .error reason := by
    intro round before
    match round with
    | 0 => exact ⟨_, rfl⟩
    | 1 => exact ⟨_, rfl⟩
    | 2 => exact ⟨.unexpectedKeys 200, by decide +kernel⟩
    | _ + 3 => omega
  have accepted : accept (sampleOutcomes 3) request = .ok (.ofList [("A", "x")]) := by
    decide +kernel
  obtain ⟨courses, -, -⟩ := fetch_takes_first_accepted policy rejected accepted
  obtain ⟨log, fetched, posts, waits⟩ := courses 100 (by decide)
  refine ⟨log, fetched, posts, ?_⟩
  rw [waits]
  decide

end SealedEnv.Launch
