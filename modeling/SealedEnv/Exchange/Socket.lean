import SealedEnv.Exchange.Service
import SealedEnv.Launch.Acceptance

/-!
Contract: the socket between the two sides of the exchange.

Owns:
- `bindSocket`, which replaces a stale file and lets every user connect;
- `post`, one request through the socket with its time limit;
- `unbindSocket`, after which nobody listens.

Does not own: what is asked and answered.
-/

namespace SealedEnv.Exchange

def socketMode : Nat := 0o666

inductive BindFailure where
  | staleFileStays (path : Path) (cause : IoError)
  | notListening (path : Path) (cause : IoError)
  | modeStays (path : Path) (cause : IoError)
deriving DecidableEq

def BindFailure.message : BindFailure → String
  | staleFileStays path cause =>
    s!"failed to remove stale socket {path.display}: {cause.message}"
  | notListening path cause =>
    s!"failed to listen on unix socket {path.display}: {cause.message}"
  | modeStays path cause => s!"failed to chmod socket {path.display}: {cause.message}"

/-- Listens at the end of a path, in place of a file that is there. -/
def bindSocket (path : Path) : Action BindFailure Unit := do
  Action.withCause (BindFailure.staleFileStays path) do
    try Action.change fun store here => store.remove here path
    catch
    | .os .noEntry => pure ()
    | cause => throw cause
  Action.withCause (BindFailure.notListening path) <|
    Action.change fun store here => store.listen here path
  Action.withCause (BindFailure.modeStays path) <|
    Action.change fun store here => store.setMode here path socketMode

/-- Stops listening.  The socket stays where it is. -/
def unbindSocket (path : Path) : StateM World Unit :=
  modify fun world => { world with store := world.store.unlisten world.here path }

def attemptLimit : Span := .ofSecs 15

/-- Asks a service through the socket at the end of a path. -/
def post (service : Service) (path : Path) (request : EnvMap) : StateM World Launch.Attempt := do
  let world ← get
  match world.store.connect world.here path with
  | .error cause => return .error (.notConnected path cause)
  | .ok () =>
    let reply ← service.respond ⟨"POST", "/", Utf8.encode (FlatJson.encode request)⟩
    let after ← get
    if world.clock + attemptLimit.nanos ≤ after.clock then
      set { after with clock := world.clock + attemptLimit.nanos }
      return .error (.timedOut attemptLimit)
    else return .ok ⟨reply.status, reply.body⟩

end SealedEnv.Exchange
