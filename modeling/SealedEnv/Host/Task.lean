import SealedEnv.Host.Bytewise
import SealedEnv.Store.World

/-!
Contract: a program at work: its surroundings and the ends of its streams.

Owns:
- `Sink`, where the bytes of a stream go, and `Task`;
- writing to the two output streams, and reading files and the input;
- the words for a file that cannot be used.

Does not own: what programs do.
-/

namespace SealedEnv.Host

/-- Where the bytes of a stream go. -/
inductive Sink where
  | channel (number : Nat)
  | file (place : Place)
  | nowhere
deriving DecidableEq

/-- A program at work. -/
structure Task where
  world : World
  /-- What came through each channel, the latest piece first. -/
  channels : List (List Bytes)
  output : Sink
  errors : Sink
  /-- The time until which programs in the background keep the output open. -/
  heldUntil : Nat
  /-- The number of the next process. -/
  nextNumber : Nat

/-- The words of a command line; each character stands for one byte. -/
abbrev Words := List String

/-- A program of the machine: from its arguments, without its name, to an exit code. -/
abbrev Tool := Words → StateM Task Nat

namespace Task

def firstNumber : Nat := 4711

/-- A task in a world.  Its two streams go through the first two channels. -/
def start (world : World) : Task :=
  ⟨world, [[], []], .channel 0, .channel 1, world.clock, firstNumber⟩

/-- The task with one channel more, and the number of that channel. -/
def withChannel (task : Task) : Nat × Task :=
  (task.channels.length, { task with channels := task.channels ++ [[]] })

def received (task : Task) (number : Nat) : Bytes :=
  ((task.channels[number]?).getD []).reverse.flatten

def send (task : Task) (sink : Sink) (bytes : Bytes) : Task :=
  match sink with
  | .channel number =>
    { task with channels := task.channels.modify number fun pieces => bytes :: pieces }
  | .file place =>
    match task.world.store.look place with
    | some (.file mode data) =>
      let store := task.world.store.insert place (.file mode (data ++ bytes))
      { task with world := { task.world with store } }
    | _ => task
  | .nowhere => task

end Task

def print (text : String) : StateM Task Unit :=
  modify fun task => task.send task.output (bytes text)

def complain (line : String) : StateM Task Unit :=
  modify fun task => task.send task.errors (bytes (line ++ "\n"))

/-- Takes all that is left of the input.  An input that cannot be read counts as empty. -/
def takeInput : StateM Task Bytes := modifyGet fun task =>
  (task.world.input.toOption.getD [], { task with world := { task.world with input := .ok [] } })

def causeText : IoError → String
  | .os errno => errno.text
  | cause => cause.message

def ask {value : Type} (question : Store → Place → Except IoError value) :
    StateM Task (Except IoError value) := do
  let world := (← get).world
  return question world.store world.here

def change (action : Action IoError Unit) :
    StateM Task (Except IoError Unit) := modifyGet fun task =>
  ((action task.world).1, { task with world := (action task.world).2 })

/-- What a file holds.  A single dash stands for the input. -/
def content (name : String) : StateM Task (Except IoError Bytes) := do
  if name = "-" then return .ok (← takeInput)
  ask fun store here => store.read here (bytes name)

/-- Does something to each of some files, and fails if it cannot be done to one of them. -/
def each
    (title problem : String)
    (names : Words)
    (step : String → StateM Task (Except IoError Unit)) :
    StateM Task Nat :=
  names.foldlM (fun code name => do
    match ← step name with
    | .ok () => return code
    | .error cause =>
      complain (s!"{title}: " ++ problem.replace "%" name ++ s!": {causeText cause}")
      return 1) 0

/-- What the named files hold, one after the other, or what the input holds if no file is named. -/
def contents (title problem : String) (names : Words) : StateM Task (Nat × Bytes) := do
  if names.isEmpty then return (0, ← takeInput)
  names.foldlM (fun (code, held) name => do
    match ← content name with
    | .ok data => return (code, held ++ data)
    | .error cause =>
      complain (s!"{title}: " ++ problem.replace "%" name ++ s!": {causeText cause}")
      return (1, held)) (0, [])

end SealedEnv.Host
