import SealedEnv.Host.Script.Basic
import SealedEnv.Host.Task
import SealedEnv.Report
import SealedEnv.Variables

/-!
Contract: the state of a running script.

Owns:
- `Shell`, with its parameters;
- the ways in which a script leaves what it is in the middle of;
- running a part of a script so that its changes of the state are lost.

Does not own: what commands do.
-/

namespace SealedEnv.Host

/-- A variable of a script. -/
structure Holding where
  value : String
  /-- Whether programs see it. -/
  shared : Bool

/-- The state of a running script. -/
structure Shell where
  task : Task
  /-- The name under which the script runs. -/
  name : String
  arguments : Words
  holdings : List (String × Holding)
  functions : List (String × Script)
  /-- What is done when a signal comes or the script ends. -/
  traps : List (String × String)
  /-- The exit code of the last command. -/
  status : Nat
  /-- The number of the process. -/
  number : Nat
  /-- Whether a failed command ends the script. -/
  strict : Bool
  /-- Whether the success of the command at hand is asked for. -/
  asked : Bool
  /-- The time at which the last program in the background ends. -/
  backgroundEnd : Nat

/-- Why a script does not go on. -/
inductive Stop where
  | ended (ending : Ending)
  /-- It never ends. -/
  | endless
  | left (loops : Nat)
  | resumed (loops : Nat)
  | returned (status : Nat)
deriving DecidableEq

abbrev Run := ExceptT Stop (StateM Shell)

namespace Shell

def folderName : String := "PWD"

def start (task : Task) (name : String) (arguments : Words) : Shell :=
  let given := task.world.environment.map fun held =>
    (spelled held.1, Holding.mk (spelled held.2) true)
  let folder := (folderName, Holding.mk (spelled task.world.here.path) true)
  { name, arguments
    task := { task with nextNumber := task.nextNumber + 1 }
    number := task.nextNumber
    holdings := (given.filter fun entry => entry.1 ≠ folderName) ++ [folder]
    functions := []
    traps := []
    status := 0
    strict := false
    asked := false
    backgroundEnd := task.world.clock }

def get? (shell : Shell) (name : String) : Option String :=
  match name with
  | "#" => some (toString shell.arguments.length)
  | "?" => some (toString shell.status)
  | "$" => some (toString shell.number)
  | "!" => some (toString (shell.number + 1))
  | "0" => some shell.name
  | "-" => some (if shell.strict then "e" else "")
  | "@" | "*" => if shell.arguments.isEmpty then none else some (" ".intercalate shell.arguments)
  | name =>
    match name.toNat? with
    | some position => shell.arguments[position - 1]?
    | none => (shell.holdings.lookup name).map Holding.value

def set (shell : Shell) (name value : String) (shared : Bool) : Shell :=
  let marked := shared || (shell.holdings.lookup name).any Holding.shared
  let others := shell.holdings.filter fun entry => entry.1 ≠ name
  { shell with holdings := others ++ [(name, ⟨value, marked⟩)] }

def environment (shell : Shell) : List Variable :=
  (shell.holdings.filter fun entry => entry.2.shared).map fun entry =>
    (bytes entry.1, bytes entry.2.value)

end Shell

def onTask {value : Type} (action : StateM Task value) : Run value := fun shell =>
  let (result, task) := action shell.task
  (.ok result, { shell with task })

/-- Writes a line to the error stream, with the name of the script. -/
def report (text : String) : Run Unit := do
  let name := (← get).name
  onTask (complain s!"{name}: 1: {text}")

/-- Runs an action and then another one, whatever came of the first. -/
def thenAlways {value : Type} (action : Run value) (last : StateM Shell Unit) : Run value :=
  fun shell =>
    let (result, shell) := action shell
    (result, (last shell).2)

/-- Runs a part of a script in a process of its own: what it did to files, streams and the clock
stays, all else is as before.  Only a signal or an endless run reaches what is around it. -/
def apart (action : Run Nat) : Run Nat := fun shell =>
  let (result, after) := action { shell with traps := [] }
  let world := { after.task.world with
    here := shell.task.world.here, environment := shell.task.world.environment }
  let task := { after.task with world, output := shell.task.output, errors := shell.task.errors }
  let back := { shell with task }
  match result with
  | .ok status => (.ok status, back)
  | .error (.ended (.exited code)) => (.ok code, back)
  | .error (.returned status) => (.ok status, back)
  | .error (.left _) => (.ok 0, back)
  | .error (.resumed _) => (.ok 0, back)
  | .error stop => (.error stop, back)

end SealedEnv.Host
