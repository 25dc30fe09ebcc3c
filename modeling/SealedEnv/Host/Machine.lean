import SealedEnv.Exchange.Delegated
import SealedEnv.Host.Shell.Evaluation

/-!
Contract: running programs on a machine.

Owns:
- the program that runs scripts and the one that changes the environment of another;
- `Machine.run`, from a path and arguments to the end of a program, with bounded nesting;
- `Machine.launcher`, which refuses what no system would start.

Does not own: the program that the machine is made for, which is a parameter.
-/

namespace SealedEnv.Host

structure Machine where
  /-- The program that is not in the toolbox, from its arguments, its name among them. -/
  own : List Bytes → StateM World Report

structure ShellWords where
  strict : Bool
  /-- Whether the first word left is a script itself. -/
  direct : Bool
  words : Words

def ShellWords.read : Words → ShellWords
  | [] => ⟨false, false, []⟩
  | "--" :: rest => ⟨false, false, rest⟩
  | word :: rest =>
    if word.startsWith "-" && word ≠ "-" then
      let more := read rest
      { more with
        strict := more.strict || word.toList.contains 'e'
        direct := more.direct || word.toList.contains 'c' }
    else ⟨false, false, word :: rest⟩

def runScript (inner : Inner) (strict : Bool) (name : String) (arguments : Words) (text : String) :
    StateM Task (Option Ending) := fun task =>
  let task := { task with nextNumber := task.nextNumber + 1 }
  runWhole inner (inner.readAndRun text) { Shell.start task name arguments with strict }

/-- The program that runs scripts: one that is given, one in a file, or the input. -/
def runShell (inner : Inner) (title : String) (arguments : Words) :
    StateM Task (Option Ending) := do
  let given := ShellWords.read arguments
  match given.direct, given.words with
  | true, [] =>
    complain s!"{title}: 0: -c requires an argument"
    return some (.exited 2)
  | true, script :: names =>
    runScript inner given.strict (names.headD title) (names.drop 1) script
  | false, [] => runScript inner given.strict title [] (spelled (← takeInput))
  | false, file :: arguments =>
    match ← content file with
    | .ok data => runScript inner given.strict file arguments (spelled data)
    | .error cause =>
      complain (s!"{title}: 0: cannot open {file}: " ++ openProblem "No such file" cause)
      return some (.exited 2)

structure EnvWords where
  environment : List Variable
  ending : String
  command : Words

/-- The environment with a value for a variable, in its old place if it had one. -/
def putVariable (added : Variable) : List Variable → List Variable
  | [] => [added]
  | held :: rest => if held.1 = added.1 then added :: rest else held :: putVariable added rest

def EnvWords.read (environment : List Variable) (ending : String) : Words → EnvWords
  | [] => ⟨environment, ending, []⟩
  | "-i" :: rest | "-" :: rest | "--ignore-environment" :: rest => read [] ending rest
  | "-0" :: rest | "--null" :: rest => read environment "\x00" rest
  | "-u" :: name :: rest =>
    read (environment.filter fun held => held.1 ≠ bytes name) ending rest
  | "--" :: rest => read environment ending rest
  | word :: rest =>
    match splitAssignment word with
    | (name, some value) => read (putVariable (bytes name, bytes value) environment) ending rest
    | (_, none) => ⟨environment, ending, word :: rest⟩

/-- The program that runs another one in a changed environment, or shows the environment. -/
def runEnv (inner : Inner) (arguments : Words) : StateM Task (Option Ending) := do
  let given := EnvWords.read (← get).world.environment "\n" arguments
  match given.command with
  | [] =>
    print <| String.join <| given.environment.map fun held =>
      spelled held.1 ++ "=" ++ spelled held.2 ++ given.ending
    return some (.exited 0)
  | name :: _ =>
    modify fun task => { task with world := { task.world with environment := given.environment } }
    match findProgram (← get).world (bytes name) with
    | .ok path => inner.program path given.command
    | .error errno =>
      complain s!"env: '{name}': {errno.text}"
      return some (.exited (if errno = .noEntry then 127 else 126))

def Machine.runOwn (machine : Machine) (words : Words) : StateM Task (Option Ending) := fun task =>
  let (report, world) := machine.own (words.map bytes) task.world
  let task := { task with world }
  let task := task.send task.output report.output
  (some report.ending, task.send task.errors report.errors)

def Machine.start (machine : Machine) (inner : Inner) (path : Path) (words : Words) :
    StateM Task (Option Ending) := do
  let arguments := words.drop 1
  match ← ask fun store here => store.node here path true with
  | .ok (.program title) =>
    if title = shellTitle then runShell inner (words.headD shellTitle) arguments
    else if title = envTitle then runEnv inner arguments
    else match toolbox.lookup title with
      | some tool => return some (.exited (← tool arguments))
      | none => machine.runOwn words
  | .ok (.file _ data) =>
    match interpreter? data with
    | some (program :: options) =>
      let words := program :: options ++ path :: arguments.map bytes
      inner.program program (words.map spelled)
    | _ => runShell inner shellTitle (spelled path :: arguments)
  | _ => return some (.exited 126)

/-- How often a loop may turn before it counts as endless. -/
def turnLimit : Nat := 10000

/-- How deeply scripts and programs may be nested before that counts as endless. -/
def nestingLimit : Nat := 1000

/-- One who runs what is nested, so many levels deep. -/
def Machine.inner (machine : Machine) : Nat → Inner
  | 0 => ⟨fun _ => throw .endless, fun _ _ => throw .endless, fun _ _ => return none⟩
  | levels + 1 =>
    let below := machine.inner levels
    { run := perform below turnLimit
      text := fun quoted text => expandMarked below.expander (innerPieces quoted text)
      program := machine.start below }

def Machine.run (machine : Machine) (path : Path) (words : List Bytes) (world : World) :
    Option Ending × Task :=
  (machine.inner nestingLimit).program path (words.map spelled) (Task.start world)

/-- The length that no single argument or variable has. -/
def stringBound : Nat := 131072

/-- The words and the variables as a program is handed them. -/
def handedStrings (words : List Bytes) (environment : List Variable) : List Bytes :=
  words ++ environment.map fun held => held.1 ++ 61 :: held.2

/-- Tells why words and variables cannot be handed to a program, or nothing. -/
def handingFault? (words : List Bytes) (environment : List Variable) : Option IoError :=
  let handed := handedStrings words environment
  if handed.any fun text => text.contains 0 then some .interiorZeroInCommand
  else if handed.any fun text => stringBound ≤ text.length then some (.os .listTooLong)
  else none

/-- Finds a program, runs it, and tells what came of it. -/
def Machine.launcher (machine : Machine) : Exchange.Launcher := fun command world =>
  let words := (command.program :: command.arguments).map Utf8.encode
  match handingFault? words world.environment with
  | some cause => (.error cause, world)
  | none =>
    match findProgram world (Utf8.encode command.program) with
    | .error errno => (.error (.os errno), world)
    | .ok path =>
      if isForeign world path then (.error (.os .notExecutable), world)
      else
        let (ending, task) := machine.run path words world
        let elapsed := match ending with
          | some _ => Span.saturating (max task.world.clock task.heldUntil - world.clock)
          | none => .longest
        (.ok ⟨ending.getD (.exited 0), task.received 0, elapsed⟩, task.world)
where
  /-- Holds of files that do not say what runs them. -/
  isForeign (world : World) (path : Path) : Bool :=
    match world.store.node world.here path true with
    | .ok (.file _ data) => (interpreter? data).isNone
    | _ => false

end SealedEnv.Host
