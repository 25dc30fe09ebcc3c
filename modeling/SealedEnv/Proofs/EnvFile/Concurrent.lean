import Mathlib.Data.List.Induction
import Mathlib.Logic.Function.Basic
import SealedEnv.Proofs.EnvFile.Interleaving

/-!
Contract: what two concurrent calls that set keys of one env file leave in it.

Owns:
- `Shared`, the world that both calls work in, and its runs in any order of steps;
- `Account`, what is in the file at every moment of a run;
- `setKey_interleaved`, which calls lose their key and which do not.

Does not own: calls that are kept from overlapping, since nothing keeps them from it.
-/

namespace SealedEnv.EnvFile

open Text

/-! ## Runs -/

/-- Two calls in one world. -/
structure Shared where
  world : World
  progress : Bool → Progress

namespace Shared

def start (world : World) : Shared := ⟨world, fun _ => .start⟩

/-- The next step of one of the calls. -/
def turn (calls : Bool → Setting) (state : Shared) (call : Bool) : Shared :=
  let (progress, world) := (calls call).advance (state.progress call) state.world
  ⟨world, Function.update state.progress call progress⟩

/-- The steps of both calls in an order. -/
def run (calls : Bool → Setting) (state : Shared) (schedule : List Bool) : Shared :=
  schedule.foldl (turn calls) state

variable (calls : Bool → Setting) (state : Shared)

theorem turn_own (call : Bool) :
    (state.turn calls call).progress call =
      ((calls call).advance (state.progress call) state.world).1 :=
  Function.update_self ..

theorem turn_other (call : Bool) :
    (state.turn calls call).progress (!call) = state.progress (!call) :=
  Function.update_of_ne (by simp) ..

theorem run_concat (schedule : List Bool) (call : Bool) :
    state.run calls (schedule ++ [call]) = (state.run calls schedule).turn calls call := by
  rw [run, List.foldl_concat]
  rfl

end Shared

/-- Holds of a call that has read the file and has not replaced it. -/
def Progress.isUnderWay : Progress → Bool
  | .read _ | .housed _ | .staged .. => true
  | _ => false

section Moments

variable (calls : Bool → Setting) (world : World) (schedule : List Bool)

/-- The calls after so many turns. -/
def moment (turns : Nat) (call : Bool) : Progress :=
  ((Shared.start world).run calls (schedule.take turns)).progress call

/-- Holds if there is a moment at which both calls are under way. -/
def Overlap : Prop :=
  ∃ turns ≤ schedule.length, ∀ call,
    (moment calls world schedule turns call).isUnderWay = true

/-- Holds of a call that has not returned at a moment at which the other one has. -/
def ReturnsLast (last : Bool) : Prop :=
  ∃ turns ≤ schedule.length,
    moment calls world schedule turns (!last) = .done ∧
      moment calls world schedule turns last ≠ .done

theorem moment_concat_of_le
    {turns : Nat}
    (within : turns ≤ schedule.length)
    (next call : Bool) :
    moment calls world (schedule ++ [next]) turns call =
      moment calls world schedule turns call := by
  rw [moment, List.take_append_of_le_length within]
  rfl

theorem moment_length (call : Bool) :
    moment calls world schedule schedule.length call =
      ((Shared.start world).run calls schedule).progress call := by
  rw [moment, List.take_length]

theorem overlap_concat_iff (next : Bool) :
    Overlap calls world (schedule ++ [next]) ↔ Overlap calls world schedule ∨
      ∀ call, (((Shared.start world).run calls (schedule ++ [next])).progress call).isUnderWay =
        true := by
  constructor
  · rintro ⟨turns, within, underWay⟩
    rw [List.length_append, List.length_singleton] at within
    rcases Nat.lt_or_eq_of_le within with earlier | rfl
    · have before := Nat.le_of_lt_succ earlier
      refine .inl ⟨turns, before, fun call => ?_⟩
      rw [← moment_concat_of_le calls world schedule before next]
      exact underWay call
    · refine .inr fun call => ?_
      rw [← moment_length]
      simpa using underWay call
  · rintro (⟨turns, within, underWay⟩ | underWay)
    · refine ⟨turns, by simp; omega, fun call => ?_⟩
      rw [moment_concat_of_le calls world schedule within]
      exact underWay call
    · refine ⟨_, le_rfl, fun call => ?_⟩
      rw [moment_length]
      exact underWay call

variable {calls world schedule}

theorem ReturnsLast.concat
    {last : Bool}
    (returns : ReturnsLast calls world schedule last)
    (next : Bool) :
    ReturnsLast calls world (schedule ++ [next]) last := by
  obtain ⟨turns, within, first, notYet⟩ := returns
  refine ⟨turns, by simp; omega, ?_, ?_⟩
  · rw [moment_concat_of_le calls world schedule within]
    exact first
  · rw [moment_concat_of_le calls world schedule within]
    exact notYet

theorem returnsLast_of_done
    {last : Bool}
    (first : ((Shared.start world).run calls schedule).progress (!last) = .done)
    (notYet : ((Shared.start world).run calls schedule).progress last ≠ .done) :
    ReturnsLast calls world schedule last := by
  refine ⟨schedule.length, le_rfl, ?_, ?_⟩
  · rw [moment_length]
    exact first
  · rw [moment_length]
    exact notYet

end Moments

/-! ## What is in the file -/

/-- What is in the file while two calls run from a text: the text itself, what one of them made of
it, or what the last one made of what it had read, which is the text itself if the calls
overlapped. -/
inductive Account
    (calls : Bool → Setting)
    (text : String)
    (phase : Bool → Phase)
    (current : String)
    (overlap : Prop)
    (isLast : Bool → Prop) : Prop where
  | untouched
      (begun : ∀ call, phase call = .waiting ∨ phase call = .holding text)
      (unchanged : current = text)
      (both : overlap ↔ ∀ call, phase call = .holding text)
  | half
      (first : Bool)
      (returned : phase first = .returned)
      (rewritten : current = (calls first).rewritten text)
      (other : (phase (!first) = .waiting ∧ ¬overlap) ∨
        (phase (!first) = .holding text ∧ overlap) ∨
        (phase (!first) = .holding ((calls first).rewritten text) ∧ ¬overlap))
  | whole
      (last : Bool)
      (returned : ∀ call, phase call = .returned)
      (comesLast : isLast last)
      (lost : overlap → current = (calls last).rewritten text)
      (kept : ¬overlap → current = (calls last).rewritten ((calls (!last)).rewritten text))

section Steps

variable
  {calls : Bool → Setting}
  {text current written : String}
  {phase next : Bool → Phase}
  {overlap overlapNext : Prop}
  {isLast isLastNext : Bool → Prop}
  {call : Bool}

/-- A call that has returned does nothing more. -/
theorem Moves.of_returned
    {setting : Setting}
    {after : Phase}
    (moves : Moves setting .returned text after written)
    (noFailure : after ≠ .failed) :
    after = .returned ∧ written = text := by
  cases moves with
  | stays => exact ⟨rfl, rfl⟩
  | fails => contradiction

theorem forall_call {holds : Bool → Prop} (own : holds call) (other : holds (!call)) :
    ∀ each, holds each := by
  intro each
  cases call <;> cases each <;> assumption

/-- A step of calls none of which has returned. -/
theorem Account.step_untouched
    (begun : ∀ each, phase each = .waiting ∨ phase each = .holding text)
    (both : overlap ↔ ∀ each, phase each = .holding text)
    (moves : Moves (calls call) (phase call) text (next call) written)
    (others : next (!call) = phase (!call))
    (noFailure : next call ≠ .failed)
    (overlaps : overlapNext ↔ overlap ∨ ∀ each, ∃ held, next each = .holding held) :
    Account calls text next written overlapNext isLastNext := by
  have stillBegun : (next call = .waiting ∨ next call = .holding text) →
      (overlap → next call = .holding text) → written = text →
        Account calls text next written overlapNext isLastNext := by
    intro ownBegun ownHolds unchanged
    have begunNext : ∀ each, next each = .waiting ∨ next each = .holding text :=
      forall_call ownBegun (others ▸ begun (!call))
    refine .untouched begunNext unchanged (overlaps.trans ⟨?_, fun holds => .inr fun each => ?_⟩)
    · rintro (overlapped | holds)
      · exact forall_call (ownHolds overlapped) (others.trans (both.mp overlapped (!call)))
      · intro each
        obtain ⟨held, isHeld⟩ := holds each
        rcases begunNext each with isWaiting | isText
        · rw [isHeld] at isWaiting
          contradiction
        · exact isText
    · exact ⟨text, holds each⟩
  generalize own : phase call = before at moves
  generalize ownNext : next call = after at moves
  cases moves with
  | stays =>
      have same : next call = phase call := ownNext.trans own.symm
      exact stillBegun (same ▸ begun call) (fun overlapped => same.trans (both.mp overlapped call))
        rfl
  | reads => exact stillBegun (.inr ownNext) (fun _ => ownNext) rfl
  | writes read =>
      have isText : read = text := by
        rcases begun call with isWaiting | isHolding
        · rw [own] at isWaiting
          contradiction
        · rw [own] at isHolding
          exact Phase.holding.inj isHolding
      cases isText
      have ends : ¬∀ each, ∃ held, next each = .holding held := by
        intro holds
        obtain ⟨held, isHeld⟩ := holds call
        rw [ownNext] at isHeld
        contradiction
      refine .half call ownNext rfl ?_
      rcases begun (!call) with isWaiting | isHolding
      · refine .inl ⟨others.trans isWaiting, fun overlapped => ?_⟩
        rcases overlaps.mp overlapped with before | holds
        · rw [both.mp before (!call)] at isWaiting
          contradiction
        · exact ends holds
      · exact .inr (.inl ⟨others.trans isHolding,
          overlaps.mpr (.inl (both.mpr (forall_call own isHolding)))⟩)
  | fails => exact absurd ownNext noFailure

/-- Calls of which one has returned do not begin to overlap. -/
theorem overlap_of_returned
    (overlaps : overlapNext ↔ overlap ∨ ∀ each, ∃ held, next each = .holding held)
    (returned : next call = .returned) :
    overlapNext ↔ overlap := by
  rw [overlaps, or_iff_left]
  intro holds
  obtain ⟨held, isHeld⟩ := holds call
  rw [returned] at isHeld
  contradiction

/-- A step when one call has returned: either nothing happens, or the other call reads what the
first one wrote, or replaces it. -/
theorem Account.step_half
    (first : Bool)
    (returned : phase first = .returned)
    (other : (phase (!first) = .waiting ∧ ¬overlap) ∨
      (phase (!first) = .holding text ∧ overlap) ∨
      (phase (!first) = .holding ((calls first).rewritten text) ∧ ¬overlap))
    (moves : Moves (calls call) (phase call) ((calls first).rewritten text) (next call) written)
    (others : next (!call) = phase (!call))
    (noFailure : next call ≠ .failed)
    (overlaps : overlapNext ↔ overlap ∨ ∀ each, ∃ held, next each = .holding held)
    (findsLast : ∀ last, phase (!last) = .returned → phase last ≠ .returned → isLastNext last) :
    Account calls text next written overlapNext isLastNext := by
  have which : call = first ∨ call = !first := by
    cases call <;> cases first <;> simp
  rcases which with rfl | rfl
  · have stays := (returned ▸ moves).of_returned noFailure
    rw [← others, ← overlap_of_returned overlaps stays.1] at other
    exact .half call stays.1 stays.2 other
  · rw [Bool.not_not] at others
    have firstNext : next first = .returned := others.trans returned
    have sameOverlap := overlap_of_returned overlaps firstNext
    rw [← sameOverlap] at other
    generalize own : phase (!first) = before at moves other
    generalize ownNext : next (!first) = after at moves
    cases moves with
    | stays => exact .half first firstNext rfl (ownNext ▸ other)
    | reads =>
        have apart : ¬overlapNext := by
          rcases other with ⟨-, apart⟩ | ⟨isHolding, -⟩ | ⟨isHolding, -⟩
          · exact apart
          · contradiction
          · contradiction
        exact .half first firstNext rfl (.inr (.inr ⟨ownNext, apart⟩))
    | writes read =>
        refine .whole (!first) (forall_call firstNext ownNext) ?_ ?_ ?_
        · refine findsLast (!first) ?_ ?_
          · rw [Bool.not_not]
            exact returned
          · rw [own]
            simp
        · intro overlapped
          rcases other with ⟨_, apart⟩ | ⟨isText, -⟩ | ⟨_, apart⟩
          · exact absurd overlapped apart
          · cases isText
            rfl
          · exact absurd overlapped apart
        · intro apart
          rw [Bool.not_not]
          rcases other with ⟨isWaiting, -⟩ | ⟨_, overlapped⟩ | ⟨isRewritten, -⟩
          · contradiction
          · exact absurd overlapped apart
          · cases isRewritten
            rfl
    | fails => exact absurd ownNext noFailure

/-- A step of one call that does not fail keeps the account. -/
theorem Account.step
    (account : Account calls text phase current overlap isLast)
    (moves : Moves (calls call) (phase call) current (next call) written)
    (others : next (!call) = phase (!call))
    (noFailure : next call ≠ .failed)
    (overlaps : overlapNext ↔ overlap ∨ ∀ each, ∃ held, next each = .holding held)
    (keepsLast : ∀ last, isLast last → isLastNext last)
    (findsLast : ∀ last, phase (!last) = .returned → phase last ≠ .returned → isLastNext last) :
    Account calls text next written overlapNext isLastNext := by
  cases account with
  | untouched begun unchanged both =>
      cases unchanged
      exact .step_untouched begun both moves others noFailure overlaps
  | half first returned rewritten other =>
      cases rewritten
      exact .step_half first returned other moves others noFailure overlaps findsLast
  | whole last returned comesLast lost kept =>
      have stays := (returned call ▸ moves).of_returned noFailure
      have sameOverlap := overlap_of_returned overlaps stays.1
      rw [← sameOverlap, ← stays.2] at lost kept
      exact .whole last (forall_call stays.1 (others.trans (returned (!call))))
        (keepsLast last comesLast) lost kept

end Steps

/-! ## Whole runs -/

theorem Progress.phase_eq_failed {progress : Progress} (failed : progress.phase = .failed) :
    ∃ cause, progress = .failed cause := by
  cases progress with
  | failed cause => exact ⟨cause, rfl⟩
  | _ => cases failed

theorem Progress.phase_eq_returned_iff {progress : Progress} :
    progress.phase = .returned ↔ progress = .done := by
  cases progress <;> simp [phase]

theorem Progress.isUnderWay_iff {progress : Progress} :
    progress.isUnderWay = true ↔ ∃ held, progress.phase = .holding held := by
  cases progress <;> simp [isUnderWay, phase]

/-- A call that has failed. -/
def Shared.HasFailed (state : Shared) : Prop := ∃ call cause, state.progress call = .failed cause

theorem Shared.HasFailed.turn
    {state : Shared}
    (hasFailed : state.HasFailed)
    (calls : Bool → Setting)
    (call : Bool) :
    (state.turn calls call).HasFailed := by
  obtain ⟨failing, cause, failed⟩ := hasFailed
  refine ⟨failing, cause, ?_⟩
  have which : failing = call ∨ failing = !call := by
    cases failing <;> cases call <;> simp
  rcases which with rfl | rfl
  · rw [turn_own, failed]
    rfl
  · rw [turn_other, failed]

/-- Two calls that are beside each other, and the account of what they wrote. -/
structure Accounted
    (calls : Bool → Setting)
    (world : World)
    (text : String)
    (schedule : List Bool)
    (state : Shared)
    (current : String) : Prop where
  beside : ∀ call, Beside (calls call) (calls (!call)) (state.progress call)
    (state.progress (!call)) state.world current
  account : Account calls text (fun call => (state.progress call).phase) current
    (Overlap calls world schedule) (ReturnsLast calls world schedule)

section Runs

variable
  {path : Path}
  {calls : Bool → Setting}
  {world : World}
  {text : String}

/-- The account is kept by every step, unless a call fails. -/
theorem accounted_turn
    {schedule : List Bool}
    {current : String}
    (accounted : Accounted calls world text schedule
      ((Shared.start world).run calls schedule) current)
    (call : Bool) :
    ((Shared.start world).run calls (schedule ++ [call])).HasFailed ∨
      ∃ written, Accounted calls world text (schedule ++ [call])
        ((Shared.start world).run calls (schedule ++ [call])) written := by
  obtain ⟨written, stillBeside, moves⟩ := (accounted.beside call).advance
  have overlaps := overlap_concat_iff calls world schedule call
  have findsLast : ∀ last,
      ((((Shared.start world).run calls schedule).progress (!last)).phase = .returned) →
      ((((Shared.start world).run calls schedule).progress last).phase ≠ .returned) →
        ReturnsLast calls world (schedule ++ [call]) last := by
    intro last first notYet
    rw [Progress.phase_eq_returned_iff] at first
    rw [Ne, Progress.phase_eq_returned_iff] at notYet
    exact (returnsLast_of_done first notYet).concat call
  simp only [Progress.isUnderWay_iff] at overlaps
  have kept := accounted.account
  rw [Shared.run_concat] at overlaps ⊢
  generalize (Shared.start world).run calls schedule = state at *
  rw [← Shared.turn_own, ← Shared.turn_other calls state call] at stillBeside
  rw [← Shared.turn_own] at moves
  by_cases failed : ((state.turn calls call).progress call).phase = .failed
  · obtain ⟨cause, isFailed⟩ := Progress.phase_eq_failed failed
    exact .inl ⟨call, cause, isFailed⟩
  · refine .inr ⟨written, forall_call stillBeside ?_, ?_⟩
    · have otherWay := stillBeside.symm
      rwa [Bool.not_not]
    · exact kept.step moves (congrArg Progress.phase (Shared.turn_other calls state call)) failed
        overlaps (fun _ comesLast => comesLast.concat call) findsLast

/-- At every moment of a run a call has failed, or the file is accounted for. -/
theorem accounted_run
    (samePath : ∀ call, (calls call).path = path)
    (held : world.store.readText world.here path = .ok text)
    (schedule : List Bool) :
    ((Shared.start world).run calls schedule).HasFailed ∨
      ∃ current, Accounted calls world text schedule
        ((Shared.start world).run calls schedule) current := by
  induction schedule using List.reverseRecOn with
  | nil =>
      refine .inr ⟨text, fun call => ?_, ?_⟩
      · have reads : world.store.readText world.here (calls call).path = .ok text := by
          rw [samePath]
          exact held
        exact ⟨(samePath (!call)).trans (samePath call).symm, reads,
          Setting.isReady_of_passing?_eq_none rfl, Setting.isReady_of_passing?_eq_none rfl,
          by simp [Shared.run, Shared.start, Progress.passing?]⟩
      · refine .untouched (fun _ => .inl rfl) rfl ⟨?_, fun holds => ?_⟩
        · rintro ⟨turns, within, underWay⟩
          have begun := underWay false
          rw [moment, List.take_nil] at begun
          contradiction
        · cases holds false
  | append_singleton schedule call inductionHypothesis =>
      rcases inductionHypothesis with hasFailed | ⟨current, accounted⟩
      · rw [Shared.run_concat]
        exact .inl (hasFailed.turn calls call)
      · exact accounted_turn accounted call

/-- When both calls have returned, the file holds what the last one made of the old text, or of what
the first one had made of it. -/
theorem stored_of_run
    (samePath : ∀ call, (calls call).path = path)
    (held : world.store.readText world.here path = .ok text)
    {schedule : List Bool}
    (returned : ∀ call, ((Shared.start world).run calls schedule).progress call = .done) :
    ∃ stored last,
      ((Shared.start world).run calls schedule).world.store.readText
        ((Shared.start world).run calls schedule).world.here path = .ok stored ∧
      ReturnsLast calls world schedule last ∧
      (Overlap calls world schedule → stored = (calls last).rewritten text) ∧
      (¬Overlap calls world schedule →
        stored = (calls last).rewritten ((calls (!last)).rewritten text)) := by
  rcases accounted_run samePath held schedule with ⟨call, cause, failed⟩ | ⟨stored, accounted⟩
  · rw [returned call] at failed
    contradiction
  · have reads := (accounted.beside false).reads
    rw [samePath] at reads
    have allReturned : ∀ call,
        (((Shared.start world).run calls schedule).progress call).phase = .returned := by
      intro call
      rw [returned call]
      rfl
    cases accounted.account with
    | untouched begun =>
        rcases begun false with isWaiting | isHolding
        · cases (allReturned false).symm.trans isWaiting
        · cases (allReturned false).symm.trans isHolding
    | half first _ _ other =>
        have otherReturned := allReturned (!first)
        rcases other with ⟨isWaiting, -⟩ | ⟨isHolding, -⟩ | ⟨isHolding, -⟩
        · cases otherReturned.symm.trans isWaiting
        · cases otherReturned.symm.trans isHolding
        · cases otherReturned.symm.trans isHolding
    | whole last _ comesLast lost kept => exact ⟨stored, last, reads, comesLast, lost, kept⟩

/-- Let two calls set different keys in one file, to values that read back, with their steps in any
order, and let both return.  Then the file is read, the key of the call that returned last has its
new value, and all but the two keys have their old ones.  The key of the other call has its new
value too if at no moment both calls were under way.  If they were, its value is the old one. -/
theorem setKey_interleaved
    (samePath : ∀ call, (calls call).path = path)
    (different : (calls false).key ≠ (calls true).key)
    (validKeys : ∀ call, isRequestKey (calls call).key = true)
    (readsBack : ∀ call, readBack (calls call).value = (calls call).value)
    (held : world.store.readText world.here path = .ok text)
    (noReturns : ∀ line ∈ lines text.toList, line.getLast? ≠ some '\r')
    {schedule : List Bool}
    (returned : ∀ call, ((Shared.start world).run calls schedule).progress call = .done) :
    ∃ stored last,
      ((Shared.start world).run calls schedule).world.store.readText
        ((Shared.start world).run calls schedule).world.here path = .ok stored ∧
      ReturnsLast calls world schedule last ∧
      (parse stored).get? (calls last).key = some (calls last).value ∧
      (¬Overlap calls world schedule →
        (parse stored).get? (calls (!last)).key = some (calls (!last)).value) ∧
      (Overlap calls world schedule →
        (parse stored).get? (calls (!last)).key = (parse text).get? (calls (!last)).key) ∧
      ∀ key, key ≠ (calls false).key → key ≠ (calls true).key →
        (parse stored).get? key = (parse text).get? key := by
  obtain ⟨stored, last, reads, comesLast, lost, kept⟩ := stored_of_run samePath held returned
  have inserted : ∀ call {base : String},
      (∀ line ∈ lines base.toList, line.getLast? ≠ some '\r') →
        parse ((calls call).rewritten base) =
          (parse base).insert (calls call).key (calls call).value := by
    intro call base plain
    rw [Setting.rewritten, parse_update plain (validKeys call), readsBack]
  have plainNext : ∀ call, ∀ line ∈ lines ((calls call).rewritten text).toList,
      line.getLast? ≠ some '\r' :=
    fun call => update_noReturns noReturns (validKeys call) (calls call).value
  have otherKey : (calls (!last)).key ≠ (calls last).key := by
    cases last with
    | false => exact different.symm
    | true => exact different
  have denotes : (Overlap calls world schedule → parse stored =
        (parse text).insert (calls last).key (calls last).value) ∧
      (¬Overlap calls world schedule → parse stored =
        ((parse text).insert (calls (!last)).key (calls (!last)).value).insert
          (calls last).key (calls last).value) := by
    constructor
    · intro overlapped
      rw [lost overlapped, inserted last noReturns]
    · intro apart
      rw [kept apart, inserted last (plainNext (!last)), inserted (!last) noReturns]
  refine ⟨stored, last, reads, comesLast, ?_, ?_, ?_, ?_⟩
  · by_cases overlapped : Overlap calls world schedule
    · rw [denotes.1 overlapped, EnvMap.get?_insert, if_pos rfl]
    · rw [denotes.2 overlapped, EnvMap.get?_insert, if_pos rfl]
  · intro apart
    rw [denotes.2 apart, EnvMap.get?_insert, if_neg otherKey, EnvMap.get?_insert, if_pos rfl]
  · intro overlapped
    rw [denotes.1 overlapped, EnvMap.get?_insert, if_neg otherKey]
  · intro key notFalse notTrue
    have neither : ∀ call, key ≠ (calls call).key := by
      intro call
      cases call with
      | false => exact notFalse
      | true => exact notTrue
    by_cases overlapped : Overlap calls world schedule
    · rw [denotes.1 overlapped, EnvMap.get?_insert, if_neg (neither last)]
    · rw [denotes.2 overlapped, EnvMap.get?_insert, if_neg (neither last), EnvMap.get?_insert,
        if_neg (neither (!last))]

end Runs

/-! ## A file with one entry -/

namespace Sample

/-- Two calls for the file `f`. -/
def calls : Bool → Setting
  | false => ⟨[102], "A", "1"⟩
  | true => ⟨[102], "B", "2"⟩

def text : String := "X=0\n"

def world : World :=
  { (default : World) with
    store := Store.empty.insert [[102]] (.file fileMode (Utf8.encode text)) }

/-- One call after the other. -/
def serial : List Bool := List.replicate 7 false ++ List.replicate 7 true

/-- One call between the first step of the other one and the rest of its steps. -/
def nested : List Bool := false :: List.replicate 7 true ++ List.replicate 6 false

theorem samePath (call : Bool) : (calls call).path = [102] := by
  cases call <;> rfl

theorem held : world.store.readText world.here [102] = .ok text := by
  decide +kernel

theorem noReturns : ∀ line ∈ lines text.toList, line.getLast? ≠ some '\r' := by
  decide

theorem returned :
    ∀ call, ((Shared.start world).run calls serial).progress call = .done ∧
      ((Shared.start world).run calls nested).progress call = .done := by
  decide +kernel

theorem returned_serial (call : Bool) :
    ((Shared.start world).run calls serial).progress call = .done :=
  (returned call).1

theorem returned_nested (call : Bool) :
    ((Shared.start world).run calls nested).progress call = .done :=
  (returned call).2

end Sample

open Sample in
/-- Calls that come one after the other set both keys. -/
theorem setKey_interleaved_serial :
    ¬Overlap calls world serial ∧
      ∃ stored, ((Shared.start world).run calls serial).world.store.readText
          ((Shared.start world).run calls serial).world.here [102] = .ok stored ∧
        (parse stored).get? "A" = some "1" ∧ (parse stored).get? "B" = some "2" ∧
          (parse stored).get? "X" = some "0" := by
  have apart : ¬Overlap calls world serial := by
    have never : ∀ turns ≤ serial.length,
        ¬∀ call, (moment calls world serial turns call).isUnderWay = true := by
      decide +kernel
    rintro ⟨turns, within, underWay⟩
    exact never turns within underWay
  have old : (parse text).get? "X" = some "0" := by decide +kernel
  obtain ⟨stored, last, reads, -, own, kept, -, others⟩ := setKey_interleaved samePath (by decide)
    (by decide) (by decide) held noReturns returned_serial
  refine ⟨apart, stored, reads, ?_⟩
  rw [others "X" (by decide) (by decide), old]
  cases last with
  | false => exact ⟨own, kept apart, rfl⟩
  | true => exact ⟨kept apart, own, rfl⟩

open Sample in
/-- A call that begins and returns while another one is under way loses its key, although both
succeed and no line of the file ends in a carriage return. -/
theorem nested_setKey_loses_key :
    (calls false).path = (calls true).path ∧ (calls false).key ≠ (calls true).key ∧
      world.store.readText world.here [102] = .ok text ∧ '\r' ∉ text.toList ∧
      (∀ call, ((Shared.start world).run calls nested).progress call = .done) ∧
      ∃ stored, ((Shared.start world).run calls nested).world.store.readText
          ((Shared.start world).run calls nested).world.here [102] = .ok stored ∧
        (parse stored).get? "B" = none := by
  have overlapped : Overlap calls world nested := ⟨2, by decide, by decide +kernel⟩
  have outer : ¬ReturnsLast calls world nested true := by
    have never : ∀ turns ≤ nested.length, ¬(moment calls world nested turns false = .done ∧
        moment calls world nested turns true ≠ .done) := by
      decide +kernel
    rintro ⟨turns, within, first, notYet⟩
    exact never turns within ⟨first, notYet⟩
  have old : (parse text).get? "B" = none := by decide +kernel
  obtain ⟨stored, last, reads, comesLast, lost, -⟩ := stored_of_run samePath held returned_nested
  have isOuter : last = false := by
    cases last with
    | false => rfl
    | true => exact absurd comesLast outer
  refine ⟨rfl, by decide, held, by decide, returned_nested, stored, reads, ?_⟩
  rw [lost overlapped, isOuter, Setting.rewritten, parse_update noReturns (by decide),
    EnvMap.get?_insert, if_neg (by decide), old]

end SealedEnv.EnvFile
