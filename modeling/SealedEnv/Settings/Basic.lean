import SealedEnv.Envelope
import SealedEnv.Exchange.Admission
import SealedEnv.Pattern.Reader
import SealedEnv.Settings.Value
import SealedEnv.Span
import SealedEnv.Text.Quoted
import SealedEnv.Variables

/-!
Contract: the settings of the service and of its clients.

Owns:
- the names and the defaults of the settings;
- `ofVariables`, which reads and checks them, with the order of the checks.

Does not own: how a value is read.
-/

namespace SealedEnv

structure Settings where
  socketPath : Path
  privateKeyFile : Path
  /-- The text of the pattern that chooses what is sent. -/
  regex : String
  logLevel : String
  /-- The seconds that a subprocess may take. -/
  subprocessSeconds : Nat
  bodyCap : Nat
  /-- Whether passing files must stay in memory. -/
  requireMemoryFiles : Bool
deriving DecidableEq

namespace Settings

inductive Refusal where
  /-- A value is no text. -/
  | unreadable
  /-- A value cannot be read as what its setting needs. -/
  | illTyped
  | emptySocketPath
  | emptyPrivateKeyFile
  | zeroTimeout
  | zeroBodyCap
  | invalidPattern (text : String)
deriving DecidableEq

def Refusal.message : Refusal → String
  | unreadable => "failed to build configuration from environment"
  | illTyped => "failed to deserialise configuration"
  | emptySocketPath => "OJSTER_SOCKET_PATH must not be empty"
  | emptyPrivateKeyFile => "OJSTER_PRIVATE_KEY_FILE must not be empty"
  | zeroTimeout => "OJSTER_SUBPROCESS_TIMEOUT_SECS must be > 0"
  | zeroBodyCap => "OJSTER_MAX_BODY_BYTES must be > 0"
  | invalidPattern text => s!"invalid OJSTER_REGEX {Text.quoted text}"

def nameStart : String := "ojster_"

/-- A letter of a setting's name in its small form; the sign for kelvin counts as a letter. -/
def smallLetter (c : Char) : Char := if c = '\u212a' then 'k' else c.toLower

/-- The setting that the name of a variable stands for. -/
def settingName? (name : String) : Option String :=
  let letters := name.toList.map smallLetter
  if nameStart.toList.isPrefixOf letters then
    some (String.ofList (letters.drop nameStart.length))
  else none

/-- The setting of a variable and its text.  A variable whose name is no text is passed over. -/
def assignment? (candidate : Variable) : Option (String × Option String) := do
  let name ← Utf8.decode? candidate.1
  return (← settingName? name, Utf8.decode? candidate.2)

/-- The settings that an environment gives, in order. -/
def assignments (environment : List Variable) : List (String × Option String) :=
  environment.filterMap assignment?

def value? (given : List (String × Option String)) (name : String) : Option Value :=
  ((given.reverse.lookup name).join).map Value.guess

/-- A setting read in one way, or its default if it is not given. -/
def reading
    {kind : Type}
    (given : List (String × Option String))
    (name : String)
    (reader : Value → Option kind)
    (default : kind) :
    Except Refusal kind :=
  match value? given name with
  | none => .ok default
  | some value => (reader value).elim (.error .illTyped) .ok

/-- The settings that an environment gives, without the checks of their values. -/
def readAll (environment : List Variable) : Except Refusal Settings := do
  let given := assignments environment
  if given.any fun assignment => assignment.2.isNone then throw .unreadable
  let text (value : Value) : Option String := some value.asText
  return {
    socketPath := Path.ofText (← reading given "socket_path" text "/mnt/ojster/ipc.sock")
    privateKeyFile :=
      Path.ofText (← reading given "private_key_file" text "/run/secrets/private_key")
    regex := ← reading given "regex" text Envelope.detectionPattern
    logLevel := ← reading given "log_level" text "info"
    subprocessSeconds := ← reading given "subprocess_timeout_secs" Value.asNat? 30
    bodyCap := ← reading given "max_body_bytes" Value.asNat? Exchange.defaultBodyCap
    requireMemoryFiles := ← reading given "require_tmpfs" Value.asTruth? true }

def fault? (settings : Settings) : Option Refusal :=
  if settings.socketPath.isEmpty then some .emptySocketPath
  else if settings.privateKeyFile.isEmpty then some .emptyPrivateKeyFile
  else if settings.subprocessSeconds = 0 then some .zeroTimeout
  else if settings.bodyCap = 0 then some .zeroBodyCap
  else if (Pattern.ofString? settings.regex).isNone then some (.invalidPattern settings.regex)
  else none

/-- The settings that an environment gives. -/
def ofVariables (environment : List Variable) : Except Refusal Settings := do
  let settings ← readAll environment
  match settings.fault? with
  | some refusal => throw refusal
  | none => return settings

def subprocessLimit (settings : Settings) : Span := .ofSecs settings.subprocessSeconds

end Settings

end SealedEnv
