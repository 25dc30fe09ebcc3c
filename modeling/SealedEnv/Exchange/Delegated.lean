import SealedEnv.EnvFile.Printer
import SealedEnv.Exchange.Admission
import SealedEnv.Report
import SealedEnv.Span
import SealedEnv.Store.AtomicWrite
import SealedEnv.Variables

/-!
Contract: unsealing a request by a command.

Owns:
- the working directory that the command finds: the request as an env file, and a link to the
  private key file;
- what the end of the command means for the request;
- the removal of the working directory, whatever happened; what is stuck in it stays.

Does not own: how programs are found and run.
-/

namespace SealedEnv.Exchange

structure Command where
  program : String
  arguments : List String
deriving DecidableEq

/-- What is known of a program that came to its end and closed its output. -/
structure Outcome where
  ending : Ending
  output : Bytes
  elapsed : Span
deriving DecidableEq

/-- Runs a command in a world, or says why it could not be started. -/
abbrev Launcher := Command → Action IoError Outcome

def requestFileName : String := ".env"

/-- The name of the link to the private key file in the working directory. -/
def keyLinkName : String := ".env.keys"

/-- The command that opens values with the program itself. -/
def ownCommand (executable : Path) : List String :=
  [executable.display, "unseal", "--json", "--priv-file", "./" ++ keyLinkName]

def workStart : String := "ojster-"

/-- The directory for passing files: the one that the environment names, or a fixed one. -/
def passingFolder (environment : List Variable) : Path :=
  (Variables.get? environment "TMPDIR").getD (Path.ofText "/tmp")

def workName (world : World) : Name :=
  world.names.name workStart world.store world.here (passingFolder world.environment)

def workPath (world : World) : Path :=
  (world.here.path.join (passingFolder world.environment)).join (workName world)

def makeWorkFolder : Action Failure Place := do
  let world ← get
  let path := workPath world
  Action.withCause (fun cause => Failure.tempDirFailed
      s!"failed to create temp dir: {(IoError.at cause path).message}") <|
    Action.change fun store here => store.makeDirectory here path
  match (← get).store.locate world.here path true with
  | .ok (.present place _) => return place
  | _ => throw (.tempDirFailed "failed to create temp dir")

/-- Fills a working directory with a request and a link to the private key file. -/
def fillWorkFolder (work : Place) (privateKeyPath : Path) (request : EnvMap) :
    Action Failure Unit := do
  Action.withCause (fun cause => Failure.tempDirFailed
      s!"failed to write env file: {cause.message}") <|
    Action.change fun store _ => store.makeFile work (Path.ofText requestFileName)
      AtomicWrite.ownerMode (Utf8.encode (EnvFile.printAll request.entries))
  Action.withCause (fun cause => Failure.tempDirFailed
      s!"failed to link private key file: {cause.message}") <|
    Action.change fun store _ => store.makeLink work privateKeyPath (Path.ofText keyLinkName)

/-- What the end of a command means: only the whole output of a command that succeeded in time is
looked at. -/
def Outcome.result (limit : Span) (outcome : Outcome) : Except Failure EnvMap :=
  if limit.nanos ≤ outcome.elapsed.nanos then .error (.subprocessTimeout limit)
  else match outcome.ending with
    | .exited 0 =>
      match FlatJson.decode? outcome.output with
      | some values => .ok values
      | none => .error (.subprocessInvalidJson outcome.elapsed)
    | .exited code => .error (.subprocessFailed (some code) outcome.elapsed)
    | .signalled _ => .error (.subprocessFailed none outcome.elapsed)

/-- Runs a command in a working directory.  It sees the environment without the reserved variables
and an empty standard input, and it is given up when the limit passes. -/
def runIn (launch : Launcher) (work : Place) (command : Command) (limit : Span) :
    Action Failure Outcome := fun world =>
  let surroundings := { world with
    here := work, environment := Variables.handedOn world.environment, input := .ok [] }
  let (result, after) := launch command surroundings
  let back := { world with
    store := after.store, tape := after.tape, refusals := after.refusals, stuck := after.stuck }
  match result with
  | .error cause => (.error (.subprocessSpawnFailed cause), back)
  | .ok outcome =>
    (.ok outcome, { back with clock := world.clock + min outcome.elapsed.nanos limit.nanos })

/-- Opens a request by running a command in a working directory that was made for it. -/
def delegatedWithin
    (launch : Launcher)
    (work : Place)
    (command : Command)
    (privateKeyPath : Path)
    (limit : Span)
    (request : EnvMap) :
    Action Failure EnvMap := do
  fillWorkFolder work privateKeyPath request
  let outcome ← runIn launch work command limit
  Action.ofExcept (outcome.result limit)

/-- Opens a request by running a command in a working directory of its own. -/
def delegated
    (launch : Launcher)
    (command : List String)
    (privateKeyPath : Path)
    (limit : Span) :
    Unsealer (StateM World) := fun request =>
  (match command with
    | [] => throw (.subprocessSpawnFailed .emptyCommand)
    | program :: arguments => do
      let work ← makeWorkFolder
      Action.discardingTree work <|
        delegatedWithin launch work ⟨program, arguments⟩ privateKeyPath limit request :
      Action Failure EnvMap)

end SealedEnv.Exchange
