import SealedEnv.FlatJson
import SealedEnv.Span
import SealedEnv.Store.IoError
import SealedEnv.Store.Path

/-!
Contract: the answers to a request and which of them are accepted.

Owns:
- `Attempt`, an answer or the reason why there is none;
- `accept`, which takes an answer that reports success and names nothing but what was asked for;
- the reasons for which an answer is rejected.

Does not own: what follows a rejection.
-/

namespace SealedEnv.Launch

inductive TransportFailure where
  | notConnected (path : Path) (source : IoError)
  /-- The request has no text. -/
  | unencodable (cause : String)
  /-- The connection broke, or what came back is no answer. -/
  | broken (cause : String)
  /-- The request is no request of the protocol. -/
  | malformed (cause : String)
  | timedOut (limit : Span)
deriving DecidableEq

def TransportFailure.message : TransportFailure → String
  | notConnected path source => s!"failed to connect to {path.display}: {source.message}"
  | unencodable cause => s!"failed to encode request: {cause}"
  | broken cause => s!"HTTP exchange failed: {cause}"
  | malformed cause => s!"failed to build request: {cause}"
  | timedOut limit => s!"request timed out after {limit.text}"

/-- What came back. -/
structure Answer where
  status : Nat
  body : Bytes
deriving DecidableEq

/-- An answer, or why there is none. -/
abbrev Attempt := Except TransportFailure Answer

/-- Why an attempt must be repeated. -/
inductive Rejection where
  | transport (failure : TransportFailure)
  | status (code : Nat)
  | undecodable (code : Nat)
  | unexpectedKeys (code : Nat)
deriving DecidableEq

def Rejection.message : Rejection → String
  | transport failure => s!"request failed: {failure.message}"
  | status code => s!"server returned status {code}"
  | undecodable code =>
    s!"failed to decode JSON response (status={code}): the text is not one object of strings"
  | unexpectedKeys code => s!"reply contains unexpected keys (status={code})"

/-- The plaintexts of an attempt, or why it must be repeated. -/
def accept (attempt : Attempt) (request : EnvMap) : Except Rejection EnvMap :=
  match attempt with
  | .error failure => .error (.transport failure)
  | .ok answer =>
    if answer.status < 200 || 300 ≤ answer.status then .error (.status answer.status)
    else match FlatJson.decode? answer.body with
      | none => .error (.undecodable answer.status)
      | some values =>
        if values.keys.any fun key => !request.contains key then
          .error (.unexpectedKeys answer.status)
        else .ok values

end SealedEnv.Launch
