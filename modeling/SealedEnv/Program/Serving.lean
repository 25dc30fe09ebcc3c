import SealedEnv.Exchange.Direct
import SealedEnv.Exchange.Socket
import SealedEnv.Program.Running

/-!
Contract: the verb that serves requests, from its start to its end.

Owns:
- the choice between opening values in process, by the program itself and by a command;
- `start`, which gives a service that can be asked, and `stop`;
- a client's command line while the service is up.

Does not own: single requests.
-/

namespace SealedEnv.Program

/-- Does something as a process of its own: with its own environment, input and working directory,
but with the files and the clock of all. -/
def aside {value : Type} (client : World → World) (action : StateM World value) :
    StateM World value := fun world =>
  let (result, after) := action (client world)
  (result, { after with
    here := world.here, environment := world.environment, input := world.input,
    inputReads := world.inputReads })

structure Server where
  service : Exchange.Service
  socketPath : Path

/-- The command that opens values outside of the process, if there is to be one. -/
def delegate? (executable : Path) (delegated : Bool) (command : List String) :
    Option (List String) :=
  if !command.isEmpty then some command
  else if delegated then some (Exchange.ownCommand executable)
  else none

def unsealer (executable : Path) (delegated : Bool) (command : List String) (settings : Settings) :
    Exchange.Unsealer (StateM World) :=
  match delegate? executable delegated command with
  | some command =>
    Exchange.delegated machine.launcher command settings.privateKeyFile settings.subprocessLimit
  | none => Exchange.direct settings.privateKeyFile

/-- Why no service came up. -/
inductive StartFailure where
  | reported (report : Report)
  | panicked (panic : Panic)
deriving DecidableEq

/-- The limit of requests that settings lead to. -/
def limitOf (settings : Settings) : Except Panic Span :=
  (Exchange.requestLimit? settings.subprocessLimit).elim (.error .spanOverflow) .ok

def start (executable : Path) (delegated : Bool) (command : List String) :
    Action StartFailure Server := do
  let world ← get
  let settings ← Action.ofExcept <|
    (Settings.ofVariables world.environment).mapError (.reported ∘ refusalReport)
  let limit ← Action.ofExcept ((limitOf settings).mapError .panicked)
  Action.withCause
      (fun failure : Exchange.BindFailure => .reported (Report.failure 1 failure.message)) <|
    Exchange.bindSocket settings.socketPath
  let opened := unsealer executable delegated command settings
  let home := fun current : World =>
    { current with here := world.here, environment := world.environment }
  let service : Exchange.Service :=
    ⟨fun request => aside home (opened request), settings.bodyCap, limit, world.clock⟩
  return ⟨service, settings.socketPath⟩

def Server.stop (server : Server) : StateM World Unit := modify fun world =>
  let store := world.store.unlisten world.here server.socketPath
  match store.removable world.here server.socketPath with
  | .ok place => { world with store := store.release world.stuck place }
  | .error _ => { world with store }

/-- Carries out a command line unless it panics.  The server that is up, if there is one, answers
requests in its own environment.  One who asks for serving gets a report only if the service does
not start. -/
def runClient (server : Option Server) (arguments : List Bytes) (attempts : Nat) :
    StateM World (Except Panic (Option Report)) := do
  match Invocation.parse arguments with
  | .ok (.run command) =>
    .ok <$> runAsSet (fun path request => do
      match server with
      | some server => Exchange.post server.service path request
      | none =>
        let world ← get
        match world.store.connect world.here path with
        | .error cause => return .error (.notConnected path cause)
        | .ok () => return .error (.notConnected path (.os .connectionRefused))) command attempts
  | .ok (.serve delegated command) =>
    match ← ((start executable delegated command).run :
        StateM World (Except StartFailure Server)) with
    | .error (.reported report) => return .ok (some report)
    | .error (.panicked panic) => return .error panic
    | .ok _ => return .ok none
  | _ => return .ok (some (← runLocal arguments))

end SealedEnv.Program
