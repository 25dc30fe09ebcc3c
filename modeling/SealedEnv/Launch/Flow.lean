import SealedEnv.Launch.Retry
import SealedEnv.Launch.Selection
import SealedEnv.Launch.Target

/-!
Contract: from an environment with sealed values to a target that can be started.

Owns:
- the order of the steps: the command is there, something is to be sent, the plaintexts are there,
  the target is found.

Does not own: the way to the service, or the start itself.
-/

namespace SealedEnv.Launch

/-- A program that was found, with its arguments and its environment. -/
structure Target where
  program : Path
  /-- The arguments, of which the first one is the name as it was written. -/
  arguments : List String
  environment : List Variable

def wait (span : Span) : StateM World Unit :=
  modify fun world => { world with clock := world.clock + span.nanos }

/-- The target for a command.  No target is given if no attempt was accepted. -/
def prepare
    (post : EnvMap → StateM World Attempt)
    (pattern : Pattern)
    (command : List String)
    (policy : Policy)
    (attempts : Nat) :
    Action LaunchFailure (Option Target) := do
  match command with
  | [] => throw .missingCommand
  | name :: _ =>
    let world ← get
    let request := select world.environment pattern
    if request.isEmpty then throw .nothingToSend
    match ← (fetch (post request) wait policy request attempts : StateM World (Option EnvMap)) with
    | none => return none
    | some decrypted =>
      let list := Variables.get? world.environment "PATH"
      match search world.store world.here (Path.ofText name) list with
      | none => throw (.commandNotFound name)
      | some program =>
        return some ⟨program, command, targetVariables world.environment decrypted⟩

end SealedEnv.Launch
