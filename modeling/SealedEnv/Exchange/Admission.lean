import SealedEnv.Failure
import SealedEnv.FlatJson
import SealedEnv.KeyName

/-!
Contract: what is let in and what is let out.

Owns:
- `admission`, the checks of a request body;
- `release`, the checks of what an unsealer returned;
- `exchange`, which runs an unsealer between the two.

Does not own: unsealers.
-/

namespace SealedEnv.Exchange

/-- The number of bytes a body may have unless the settings say otherwise. -/
def defaultBodyCap : Nat := 10485760

/-- The cause that is reported for a body with more bytes than `cap`. -/
def oversizedCause (cap : Nat) : String :=
  s!"request body unreadable or larger than {cap} bytes"

/-- The cause that is reported for a body that is no object of strings. -/
def malformedCause : String := "the text is not one object of strings"

/-- The sealed values in a request body. -/
def admission (cap : Nat) (body : Bytes) : Except Failure EnvMap :=
  if cap < body.length then .error (.invalidJson (oversizedCause cap))
  else match FlatJson.decode? body with
    | none => .error (.invalidJson malformedCause)
    | some request =>
      match request.keys.find? fun key => !isRequestKey key with
      | some key => .error (.invalidKeyName key)
      | none => .ok request

/-- The plaintexts that may leave: something, and nothing but what was asked for. -/
def release (request result : EnvMap) : Except Failure EnvMap :=
  if result.keys.any fun key => !request.contains key then .error .unexpectedKeysReturned
  else if result.isEmpty then .error .noAcceptableEntries
  else .ok result

abbrev Unsealer (m : Type → Type) := EnvMap → m (Except Failure EnvMap)

/-- The result of a request body.  The unsealer sees admitted requests only. -/
def exchange {m : Type → Type} [Monad m] (unsealer : Unsealer m) (cap : Nat) (body : Bytes) :
    m (Except Failure EnvMap) :=
  match admission cap body with
  | .error failure => pure (.error failure)
  | .ok request => do
    match ← unsealer request with
    | .error failure => pure (.error failure)
    | .ok result => pure (release request result)

end SealedEnv.Exchange
