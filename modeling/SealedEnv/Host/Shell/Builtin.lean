import SealedEnv.Host.LookUp
import SealedEnv.Host.Script.Reader
import SealedEnv.Host.Shell.Expansion
import SealedEnv.Host.Toolbox

/-!
Contract: the commands that a script carries out itself.

Owns:
- commands on its state: variables, arguments, the working directory, traps;
- commands that leave what they are in;
- signals that a script sends to itself.

Does not own: commands that are made of others.
-/

namespace SealedEnv.Host

/-- Who runs what is nested: scripts, the words in expansions, and programs. -/
structure Inner where
  run : Script → Run Nat
  text : (quoted : Bool) → String → Run (List Marked)
  /-- Runs a program with its arguments, its name among them, and tells how it ended, if it did. -/
  program : Path → Words → StateM Task (Option Ending)

/-- An expander's side of one who runs what is nested. -/
def Inner.readAndRun (inner : Inner) (text : String) : Run Nat := do
  match Script.read? text with
  | some script => inner.run script
  | none =>
    report "Syntax error"
    throw (.ended (.exited 2))

/-- What a script writes when it runs in a process of its own. -/
def Inner.capture (inner : Inner) (text : String) : Run String := do
  let before := (← get).task.output
  let number ← onTask (modifyGet Task.withChannel)
  modify fun shell => { shell with task := { shell.task with output := .channel number } }
  let status ← thenAlways (apart (inner.readAndRun text)) <|
    modify fun shell => { shell with task := { shell.task with output := before } }
  modify fun shell => { shell with status }
  return spelled ((← get).task.received number)

def Inner.expander (inner : Inner) : Expander := ⟨inner.capture, inner.text⟩

def numberAt (arguments : Words) (default : Nat) : Nat :=
  ((arguments.head?).bind String.toNat?).getD default

/-- A name and the value that follows its equals sign. -/
def splitAssignment (word : String) : String × Option String :=
  let name := word.toList.takeWhile (· ≠ '=')
  match word.toList.drop name.length with
  | [] => (String.ofList name, none)
  | _ :: value => (String.ofList name, some (String.ofList value))

def declare (shared : Bool) (arguments : Words) : Run Nat := do
  for word in arguments do
    match splitAssignment word with
    | (name, some value) => modify fun shell => shell.set name value shared
    | (name, none) =>
      modify fun shell => match shell.get? name with
        | some value => shell.set name value shared
        | none => shell
  return 0

def changeFolder (arguments : Words) : Run Nat := do
  let shell ← get
  let goal := (arguments.head?).getD ((shell.get? "HOME").getD "")
  let world := shell.task.world
  match world.store.locate world.here (bytes goal) true with
  | .ok (.present place .directory) =>
    let world := { world with here := place }
    let moved := { shell with task := { shell.task with world } }
    set (moved.set Shell.folderName (spelled place.path) false)
    return 0
  | _ =>
    report s!"cd: can't cd to {goal}"
    return 2

/-- Gives names the words of a line; the last name gets all that is left. -/
def assignFields (separators : List Char) : List String → List Char → Run Unit
  | [], _ => return ()
  | [name], line =>
    let text := (line.dropWhile separators.contains).reverse.dropWhile separators.contains
    modify fun shell => shell.set name (String.ofList text.reverse) false
  | name :: rest, line => do
    let line := line.dropWhile separators.contains
    let field := line.takeWhile fun c => !separators.contains c
    modify fun shell => shell.set name (String.ofList field) false
    assignFields separators rest (line.drop field.length)

def readLine (arguments : Words) : Run Nat := do
  let shell ← get
  let input := (shell.task.world.input).toOption.getD []
  let line := input.takeWhile (· ≠ 10)
  let rest := input.drop (line.length + 1)
  let world := { shell.task.world with input := .ok rest }
  set { shell with task := { shell.task with world } }
  let names := arguments.filter fun word => word ≠ "-r"
  assignFields shell.separators (if names.isEmpty then ["REPLY"] else names) (spelled line).toList
  return if line.length < input.length then 0 else 1

def signals : List (String × Nat) := [
  ("EXIT", 0), ("HUP", 1), ("INT", 2), ("QUIT", 3), ("ABRT", 6), ("KILL", 9), ("USR1", 10),
  ("SEGV", 11), ("USR2", 12), ("PIPE", 13), ("ALRM", 14), ("TERM", 15), ("CHLD", 17), ("CONT", 18),
  ("STOP", 19)]

def signalText? (signal : Nat) : Option String :=
  [(1, "Hangup"), (3, "Quit"), (6, "Aborted"), (9, "Killed"), (10, "User defined signal 1"),
    (11, "Segmentation fault"), (12, "User defined signal 2"), (14, "Alarm clock"),
    (15, "Terminated")].lookup signal

def signalName? (word : String) : Option String :=
  let short := if word.startsWith "SIG" then (word.drop 3).toString else word
  (signals.find? fun signal => signal.1 = short || toString signal.2 = word).map Prod.fst

/-- Lets a signal come to the script itself. -/
def receive (inner : Inner) (name : String) : Run Nat := do
  let number := (signals.lookup name).getD 0
  match (← get).traps.lookup name with
  | some "" => if name = "KILL" then throw (.ended (.signalled number)) else return 0
  | some action =>
    if name = "KILL" then throw (.ended (.signalled number))
    else
      let _ ← inner.readAndRun action
      return 0
  | none =>
    if name = "EXIT" || name = "CHLD" || name = "CONT" then return 0
    else if name = "STOP" then throw .endless
    else throw (.ended (.signalled number))

def send (inner : Inner) (arguments : Words) : Run Nat := do
  let (name?, targets) := match arguments with
    | "-s" :: name :: rest => (signalName? name, rest)
    | word :: rest =>
      if word.startsWith "-" then (signalName? (word.drop 1).toString, rest)
      else (some "TERM", word :: rest)
    | [] => (some "TERM", [])
  match name?, targets with
  | some name, target :: _ =>
    if target = toString (← get).number then receive inner name
    else
      report "kill: No such process"
      return 1
  | _, _ =>
    report "kill: Illegal option"
    return 2

def setTraps (arguments : Words) : Run Nat := do
  match arguments with
  | action :: names =>
    for name in names.filterMap signalName? do
      modify fun shell =>
        let others := shell.traps.filter fun trap => trap.1 ≠ name
        { shell with traps := if action = "-" then others else (name, action) :: others }
    return 0
  | [] => return 0

def setOptions : Words → Run Nat
  | [] => return 0
  | "--" :: rest => do
    modify fun shell => { shell with arguments := rest }
    return 0
  | word :: rest => do
    if word.startsWith "-" || word.startsWith "+" then
      if word.toList.contains 'e' then
        modify fun shell => { shell with strict := word.startsWith "-" }
      setOptions rest
    else
      modify fun shell => { shell with arguments := word :: rest }
      return 0

def waitForAll : Run Nat := do
  modify fun shell =>
    let clock := max shell.task.world.clock shell.backgroundEnd
    { shell with task := { shell.task with world := { shell.task.world with clock } } }
  return 0

def openProblem (missing : String) : IoError → String
  | .os .noEntry => missing
  | cause => causeText cause

def runFile (inner : Inner) (name : String) : Run Nat := do
  match ← onTask (ask fun store here => store.read here (bytes name)) with
  | .ok data => inner.readAndRun (spelled data)
  | .error cause =>
    report (s!".: cannot open {name}: " ++ openProblem "No such file" cause)
    throw (.ended (.exited 2))

def ownTools : List (String × Tool) := [
  ("echo", Tool.echoEscaped), ("printf", Tool.printf), ("test", Tool.test), ("[", Tool.bracket),
  ("pwd", Tool.pwd), ("true", fun _ => return 0), ("false", fun _ => return 1),
  (":", fun _ => return 0), ("umask", fun _ => return 0)]

def runTool (tool : Tool) (arguments : Words) : Run Nat := do
  let before := (← get).task.errors
  let number ← onTask (modifyGet Task.withChannel)
  modify fun shell => { shell with task := { shell.task with errors := .channel number } }
  let status ← onTask (tool arguments)
  modify fun shell => { shell with task := { shell.task with errors := before } }
  (Tool.lines (spelled ((← get).task.received number))).forM report
  return status

/-- The exit code that an argument spells, or that of the last command. -/
def statusAt (title : String) (arguments : Words) : Run Nat := do
  match arguments with
  | [] => return (← get).status
  | word :: _ =>
    match word.toNat? with
    | some status => return status % 256
    | none =>
      report s!"{title}: Illegal number: {word}"
      throw (.ended (.exited 2))

def shift (arguments : Words) : Run Nat := do
  let count := numberAt arguments 1
  let shell ← get
  if shell.arguments.length < count then
    report "shift: can't shift that many"
    throw (.ended (.exited 2))
  set { shell with arguments := shell.arguments.drop count }
  return 0

/-- The command of a name that a script carries out itself. -/
def builtin? (inner : Inner) (name : String) : Option (Words → Run Nat) :=
  match name with
  | "exit" => some fun arguments => do throw (.ended (.exited (← statusAt "exit" arguments)))
  | "return" => some fun arguments => do throw (.returned (← statusAt "return" arguments))
  | "break" => some fun arguments => throw (.left (numberAt arguments 1))
  | "continue" => some fun arguments => throw (.resumed (numberAt arguments 1))
  | "export" => some (declare true)
  | "local" | "readonly" => some (declare false)
  | "unset" => some fun arguments => do
    modify fun shell => { shell with
      holdings := shell.holdings.filter fun entry => !arguments.contains entry.1
      functions := shell.functions.filter fun entry => !arguments.contains entry.1 }
    return 0
  | "set" => some setOptions
  | "shift" => some shift
  | "cd" => some changeFolder
  | "read" => some readLine
  | "eval" => some fun arguments => inner.readAndRun (" ".intercalate arguments)
  | "." => some fun arguments => runFile inner (arguments.headD "")
  | "wait" => some fun _ => waitForAll
  | "kill" => some (send inner)
  | "trap" => some setTraps
  | name => (ownTools.lookup name).map runTool

end SealedEnv.Host
