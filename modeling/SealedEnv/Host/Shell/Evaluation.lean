import SealedEnv.Host.Shell.Builtin

/-!
Contract: what a script does.

Owns:
- redirections, pipes and the background;
- commands by name: functions, commands of the script itself, programs;
- `perform`, by recursion on the script; loops end after a number of turns or count as endless.

Does not own: how a program starts.
-/

namespace SealedEnv.Host

def outputTo (sink : Sink) : StateM Shell Unit :=
  modify fun shell => { shell with task := { shell.task with output := sink } }

def errorsTo (sink : Sink) : StateM Shell Unit :=
  modify fun shell => { shell with task := { shell.task with errors := sink } }

def inputFrom (input : Except IoError Bytes) : StateM Shell Unit := modify fun shell =>
  { shell with task := { shell.task with world := { shell.task.world with input } } }

def streamTo (stream : Nat) (sink : Sink) : StateM Shell Unit :=
  match stream with
  | 1 => outputTo sink
  | 2 => errorsTo sink
  | _ => pure ()

def sinkOf (task : Task) (stream : String) : Sink :=
  match stream with
  | "1" => task.output
  | "2" => task.errors
  | _ => .nowhere

def openSink (path : Path) (append : Bool) : Action IoError Sink := do
  Action.change fun store here => do
    let before := if append then (store.read here path).toOption.getD [] else []
    store.writeFile here path 0o644 before
  match ← Action.ask fun store here => store.locate here path true with
  | .present place (.file ..) => return .file place
  | _ => return .nowhere

/-- Makes a redirection, and tells whether that was possible. -/
def redirect (expander : Expander) (one : Redirect) : Run Bool := do
  let target ← expandText expander one.word
  match one.kind with
  | .text =>
    inputFrom (.ok (bytes target))
    return true
  | .read =>
    match ← onTask (ask fun store here => store.read here (bytes target)) with
    | .ok data =>
      inputFrom (.ok data)
      return true
    | .error cause =>
      report (s!"cannot open {target}: " ++ openProblem "No such file" cause)
      return false
  | .same =>
    streamTo one.stream (sinkOf (← get).task target)
    return true
  | .write | .append =>
    let opened ← onTask fun task =>
      let (sink, world) := openSink (bytes target) (one.kind = .append) task.world
      (sink, { task with world })
    match opened with
    | .ok sink =>
      streamTo one.stream sink
      return true
    | .error cause =>
      report (s!"cannot create {target}: " ++ openProblem "Directory nonexistent" cause)
      return false

def redirectAll (expander : Expander) (redirects : List Redirect) : Run Bool :=
  redirects.allM (redirect expander)

def redirected (expander : Expander) (redirects : List Redirect) (body : Run Nat) : Run Nat := do
  let before := (← get).task
  thenAlways (do if ← redirectAll expander redirects then body else return 2) do
    outputTo before.output
    errorsTo before.errors
    if redirects.any fun one => one.stream = 0 then inputFrom before.world.input

/-- Keeps the exit code of a command. -/
def settled (body : Run Nat) : Run Nat := do
  let status ← body
  modify fun shell => { shell with status }
  return status

/-- Runs something whose success is asked for. -/
def asking (body : Run Nat) : Run Nat := do
  let before := (← get).asked
  modify fun shell => { shell with asked := true }
  thenAlways body <| modify fun shell => { shell with asked := before }

def runProgram (inner : Inner) (path : Path) (words : Words) : Run Ending := do
  let shell ← get
  let world := { shell.task.world with environment := shell.environment }
  let (ending, task) := inner.program path words { shell.task with world }
  let world := { task.world with
    here := shell.task.world.here, environment := shell.task.world.environment }
  set { shell with
    task := { task with world, output := shell.task.output, errors := shell.task.errors } }
  match ending with
  | some ending => return ending
  | none => throw .endless

/-- The exit code by which a script knows how a program ended.  It tells of most signals. -/
def codeOf : Ending → Run Nat
  | .exited code => return code
  | .signalled signal => do
    (signalText? signal).forM fun text => onTask (complain text)
    return 128 + signal

def find (name : String) : Run (Except Nat Path) := do
  let shell ← get
  match findProgram { shell.task.world with environment := shell.environment } (bytes name) with
  | .ok path => return .ok path
  | .error .noEntry =>
    report s!"{name}: not found"
    return .error 127
  | .error errno =>
    report s!"{name}: {errno.text}"
    return .error 126

def runCommand (inner : Inner) (name : String) (arguments : Words) : Run Nat := do
  match builtin? inner name with
  | some command => command arguments
  | none =>
    match ← find name with
    | .ok path => codeOf (← runProgram inner path (name :: arguments))
    | .error code => return code

def describe (inner : Inner) (name : String) : Run Nat := do
  if (builtin? inner name).isSome || ((← get).functions.lookup name).isSome then
    onTask (print (name ++ "\n"))
    return 0
  let shell ← get
  match findProgram { shell.task.world with environment := shell.environment } (bytes name) with
  | .ok path =>
    onTask (print (spelled path ++ "\n"))
    return 0
  | .error _ => return 127

def call (inner : Inner) (body : Script) (arguments : Words) : Run Nat := fun shell =>
  let (result, after) := inner.run body { shell with arguments }
  let back := { after with arguments := shell.arguments }
  match result with
  | .error (.returned status) => (.ok status, back)
  | result => (result, back)

/-- Puts a program in place of the script. -/
def replaceBy (inner : Inner) (name : String) (arguments : Words) : Run Nat := do
  match ← find name with
  | .ok path => throw (.ended (← runProgram inner path (name :: arguments)))
  | .error code => throw (.ended (.exited code))

def runByName (inner : Inner) (name : String) (arguments : Words) : Run Nat := do
  match (← get).functions.lookup name with
  | some body => call inner body arguments
  | none =>
    match name, arguments with
    | "command", "-v" :: name :: _ => describe inner name
    | "command", name :: arguments => runCommand inner name arguments
    | "exec", name :: arguments => replaceBy inner name arguments
    | name, arguments => runCommand inner name arguments

def assign (expander : Expander) (shared : Bool) (assignments : List (String × Word)) : Run Unit :=
  assignments.forM fun assignment => do
    let value ← expandText expander assignment.2
    modify fun shell => shell.set assignment.1 value shared

/-- Runs a simple command.  What it assigns in front of a name lasts as long as the command. -/
def runSimple
    (inner : Inner)
    (assignments : List (String × Word))
    (words : List Word)
    (redirects : List Redirect) :
    Run Nat := do
  let expander := inner.expander
  modify fun shell => { shell with status := if words.isEmpty then 0 else shell.status }
  match ← expandAll expander words with
  | [] =>
    redirected expander redirects do
      assign expander false assignments
      return (← get).status
  | ["exec"] =>
    if ← redirectAll expander redirects then return 0 else throw (.ended (.exited 2))
  | name :: arguments =>
    redirected expander redirects do
      if assignments.isEmpty then runByName inner name arguments
      else
        let before := (← get).holdings
        let names := assignments.map Prod.fst
        assign expander true assignments
        thenAlways (runByName inner name arguments) <| modify fun shell =>
          let others := shell.holdings.filter fun entry => !names.contains entry.1
          let kept := before.filter fun entry => names.contains entry.1
          { shell with holdings := others ++ kept }

/-- Runs the body of a loop, and tells whether the loop goes on. -/
def turn (body : Run Nat) : Run (Bool × Nat) := fun shell =>
  match body shell with
  | (.ok status, shell) => (.ok (true, status), shell)
  | (.error (.left loops), shell) =>
    if loops ≤ 1 then (.ok (false, 0), shell) else (.error (.left (loops - 1)), shell)
  | (.error (.resumed loops), shell) =>
    if loops ≤ 1 then (.ok (true, 0), shell) else (.error (.resumed (loops - 1)), shell)
  | (.error stop, shell) => (.error stop, shell)

/-- Repeats a body while a condition is as asked for.  After so many turns it counts as endless. -/
def repeatWhile (success : Bool) (condition body : Run Nat) : (turns : Nat) → (last : Nat) → Run Nat
  | 0, _ => throw .endless
  | turns + 1, last => do
    let status ← asking condition
    if decide (status = 0) ≠ success then return last
    let (goesOn, last) ← turn body
    if goesOn then repeatWhile success condition body turns last else return last

/-- Runs a body with each of some words as the value of a variable. -/
def repeatFor (name : String) (body : Run Nat) : Words → (last : Nat) → Run Nat
  | [], last => return last
  | word :: rest, _ => do
    modify fun shell => shell.set name word false
    let (goesOn, last) ← turn body
    if goesOn then repeatFor name body rest last else return last

/-- Runs two scripts side by side; the second one reads what the first one writes. -/
def runPipe (first second : Run Nat) : Run Nat := do
  let before := (← get).task
  let number ← onTask (modifyGet Task.withChannel)
  let _ ← thenAlways (do outputTo (.channel number); apart first) (outputTo before.output)
  let middle := (← get).task
  let since (clock : Nat) : StateM Shell Unit := modify fun shell =>
    { shell with task := { shell.task with world := { shell.task.world with clock } } }
  since before.world.clock
  let status ← thenAlways
    (do inputFrom (.ok (middle.received number)); apart second) (inputFrom middle.world.input)
  since (max middle.world.clock (← get).task.world.clock)
  return status

def divertsOutput : Script → Bool
  | .simple _ _ redirects => redirects.any fun one => one.stream = 1 && one.kind ≠ .same
  | .redirected _ redirects => redirects.any fun one => one.stream = 1 && one.kind ≠ .same
  | _ => false

/-- A time that is never reached. -/
def never : Nat := Nat.pow 2 64 * Nat.pow 10 9

/-- Runs something in the background: the time it takes does not pass for the script. -/
def runInBackground (diverted : Bool) (body : Run Nat) : Run Nat := fun shell =>
  let world := { shell.task.world with input := .ok [] }
  let (result, after) := apart body { shell with task := { shell.task with world } }
  let finish := if result matches .error .endless then never else after.task.world.clock
  let holds := !diverted && shell.task.output = .channel 0
  let world := { after.task.world with
    clock := shell.task.world.clock, input := shell.task.world.input }
  let task := { after.task with
    world, heldUntil := if holds then max after.task.heldUntil finish else after.task.heldUntil }
  (.ok 0, { shell with task, backgroundEnd := max shell.backgroundEnd finish })

def isLookedAt : Script → Bool
  | .both .. | .either .. | .negated _ => true
  | _ => false

def perform (inner : Inner) (turns : Nat) : Script → Run Nat
  | .empty => return (← get).status
  | .simple assignments words redirects => settled (runSimple inner assignments words redirects)
  | .sequence first second => do
    let status ← settled (perform inner turns first)
    let shell ← get
    if shell.strict && !shell.asked && status ≠ 0 && !isLookedAt first then
      throw (.ended (.exited status))
    perform inner turns second
  | .both first second => do
    let status ← settled (asking (perform inner turns first))
    if status = 0 then perform inner turns second else return status
  | .either first second => do
    let status ← settled (asking (perform inner turns first))
    if status = 0 then return status else perform inner turns second
  | .pipe first second => settled (runPipe (perform inner turns first) (perform inner turns second))
  | .negated body => settled do
    return if (← asking (perform inner turns body)) = 0 then 1 else 0
  | .background body => settled (runInBackground (divertsOutput body) (perform inner turns body))
  | .subshell body => settled (apart (perform inner turns body))
  | .redirected body redirects =>
    settled (redirected inner.expander redirects (perform inner turns body))
  | .branch condition yes no => settled do
    if (← settled (asking (perform inner turns condition))) = 0 then perform inner turns yes
    else if no = .empty then return 0
    else perform inner turns no
  | .loop success condition body => settled <|
    repeatWhile success (perform inner turns condition) (perform inner turns body) turns 0
  | .each name words body => settled do
    let words ← match words with
      | some words => expandAll inner.expander words
      | none => pure (← get).arguments
    repeatFor name (perform inner turns body) words 0
  | .choose word patterns body otherwise => settled do
    let text ← expandText inner.expander word
    let chosen ← patterns.anyM fun pattern => do
      return fits (← expandMarked inner.expander pattern) text.toList
    if chosen then perform inner turns body
    else if otherwise = .empty then return 0
    else perform inner turns otherwise
  | .define name body => settled do
    modify fun shell => { shell with
      functions := (name, body) :: shell.functions.filter fun entry => entry.1 ≠ name }
    return 0

/-- Runs a whole script: the actions that are kept for its end come last. -/
def runWhole (inner : Inner) (body : Run Nat) (shell : Shell) : Option Ending × Task :=
  let (result, shell) := body shell
  let finish (status : Nat) : Option Ending × Task :=
    match shell.traps.lookup "EXIT" with
    | none => (some (.exited (status % 256)), shell.task)
    | some action =>
      match inner.readAndRun action { shell with traps := [], status } with
      | (.error (.ended ending), shell) => (some ending, shell.task)
      | (.error .endless, shell) => (none, shell.task)
      | (_, shell) => (some (.exited (status % 256)), shell.task)
  match result with
  | .ok status => finish status
  | .error (.ended (.exited code)) => finish code
  | .error (.returned status) => finish status
  | .error (.ended ending) => (some ending, shell.task)
  | .error .endless => (none, shell.task)
  | .error _ => finish 0

end SealedEnv.Host
