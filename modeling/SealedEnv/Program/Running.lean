import SealedEnv.Host.Machine
import SealedEnv.Launch.Flow
import SealedEnv.Program.Local
import SealedEnv.Settings.Basic

/-!
Contract: the verb that runs a command with plaintexts in its environment.

Owns:
- the order of settings, plaintexts and target;
- handing over to the target, after which its report is the program's.

Does not own: the way to the service.
-/

namespace SealedEnv.Program

/-- The machine on which the program itself runs: the program that is not in the toolbox. -/
def machine : Host.Machine := ⟨runLocal⟩

def executablePlace : Place := Host.placeOf ["usr", "local", "bin", programName]

def executable : Path := executablePlace.path

def installed : Store :=
  ((Host.installed.insert (Host.placeOf ["usr", "local"]) .directory).insert
    (Host.placeOf ["usr", "local", "bin"]) .directory).insert
    executablePlace (.program programName)

def refusalReport (refusal : Settings.Refusal) : Report :=
  .failure 2 s!"configuration invalid: {refusal.message}"

def launchReport (failure : Launch.LaunchFailure) : Report :=
  .failure failure.exitCode failure.message

/-- Runs a target in place of the program.  There is no report if it never ends. -/
def become (target : Launch.Target) : Action Launch.LaunchFailure (Option Report) := fun world =>
  let words := target.arguments.map Utf8.encode
  let world := { world with environment := Variables.sorted target.environment }
  let refused (cause : IoError) := (.error (.notStarted target.program cause), world)
  match Host.handingFault? words world.environment with
  | some cause => refused cause
  | none =>
    match Host.findProgram world target.program with
    | .error errno => refused (.os errno)
    | .ok path =>
      let (ending, task) := machine.run path words world
      (.ok (ending.map fun ending => ⟨ending, task.received 0, task.received 1⟩), task.world)

/-- Fetches plaintexts by at most so many attempts and runs a command with them.  There is no report
if no attempt is accepted or the command never ends. -/
def runWith
    (post : EnvMap → StateM World Launch.Attempt)
    (pattern : Pattern)
    (command : List String)
    (attempts : Nat) :
    StateM World (Option Report) := do
  let action : Action Launch.LaunchFailure (Option Report) := do
    match ← Launch.prepare post pattern command .standard attempts with
    | none => return none
    | some target => become target
  match ← (action.run : StateM World (Except Launch.LaunchFailure (Option Report))) with
  | .ok report => return report
  | .error failure => return some (launchReport failure)

/-- Runs a command as the settings in the environment say. -/
def runAsSet
    (post : Path → EnvMap → StateM World Launch.Attempt)
    (command : List String)
    (attempts : Nat) :
    StateM World (Option Report) := do
  match Settings.ofVariables (← get).environment with
  | .error refusal => return some (refusalReport refusal)
  | .ok settings =>
    match Pattern.ofString? settings.regex with
    | none => return some (refusalReport (.invalidPattern settings.regex))
    | some pattern => runWith (post settings.socketPath) pattern command attempts

end SealedEnv.Program
