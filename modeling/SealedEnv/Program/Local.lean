import SealedEnv.Invocation.Basic
import SealedEnv.Report
import SealedEnv.Vault.KeyPair
import SealedEnv.Vault.Seal
import SealedEnv.Vault.Unseal

/-!
Contract: the verbs that work on files alone, from the command line to the report.

Owns:
- what each of these verbs writes to which stream, and its exit code;
- the report on a command line that cannot be carried out;
- `runLocal`, the whole program for one who asks for such a verb.

Does not own: the verbs that need a service.
-/

namespace SealedEnv.Program

def programName : String := "ojster"

def version : String := "0.1.0"

def failureReport (failure : Failure) : Report := .failure failure.exitCode failure.message

/-- The report on an action that gives a report unless it fails. -/
def reporting (action : Action Failure Report) : StateM World Report := do
  match ← (action.run : StateM World (Except Failure Report)) with
  | .ok report => return report
  | .error failure => return failureReport failure

/-- The report on plaintexts: the form that was asked for and, if there are none, a notice. -/
def unsealedReport (input : Path) (json : Bool) (unsealed : Vault.Unsealed) : Report where
  ending := .exited 0
  output := Utf8.encode (if json then unsealed.json else unsealed.envLines)
  errors := if unsealed.isEmpty then
    Utf8.encode s!"no sealed entries found in {input.display}\n" else []

def carryOut? : Invocation → Option (StateM World Report)
  | .version => some (return .success (version ++ "\n"))
  | .makeKeyPair privateFile publicFile => some <| reporting do
    return .success (← Vault.makeKeyPair privateFile publicFile)
  | .sealInput publicFile out key => some <| reporting do
    return .notice ((← Vault.sealInput publicFile out key) ++ "\n")
  | .unsealFile input privateFile json keys => some <| reporting do
    let unsealed ← Vault.unsealSource (.file input) privateFile keys
    return unsealedReport input json unsealed
  | .serve .. | .run _ => none

def helpText : String :=
  "Usage: " ++ programName ++ " <verb> [options]\n\nVerbs: " ++
    ", ".intercalate (Invocation.verbs.map Invocation.Verb.name) ++ "\n"

def faultText : Invocation.Fault → String
  | .helpOnMissing => helpText
  | .helpAsked => helpText
  | .versionAsked => programName ++ " " ++ version ++ "\n"
  | .unknownArgument => "error: there is an argument that the verb does not take\n"
  | .invalidVerb => "error: there is no such verb\n"
  | .invalidValue => "error: an option needs a value\n"
  | .repeated => "error: an argument was given more than once\n"
  | .tooManyValues => "error: a flag takes no value\n"
  | .missingArgument => "error: an argument is missing\n"
  | .notText => "error: an argument is not UTF-8\n"

/-- The report on a command line that cannot be carried out.  Who asked for help gets it as
output. -/
def faultReport (fault : Invocation.Fault) : Report :=
  let text := Utf8.encode (faultText fault)
  if fault.exitCode = 0 then ⟨.exited 0, text, []⟩ else ⟨.exited fault.exitCode, [], text⟩

/-- Carries out a command line that asks for a verb that works on files alone. -/
def runLocal (arguments : List Bytes) : StateM World Report :=
  match Invocation.parse arguments with
  | .error fault => return faultReport fault
  | .ok invocation =>
    (carryOut? invocation).getD (return .failure 1 "this verb needs a service around it")

end SealedEnv.Program
