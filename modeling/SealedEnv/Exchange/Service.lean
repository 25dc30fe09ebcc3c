import SealedEnv.Exchange.Admission
import SealedEnv.Exchange.Reply
import SealedEnv.Exchange.Timestamp
import SealedEnv.Span
import SealedEnv.Store.World

/-!
Contract: the routes of the exchange and the time that a request may take.

Owns:
- which paths take which methods;
- the reply of the health route;
- `respond`, which gives up a request that takes too long;
- the time limit of a request, which lies beyond that of a subprocess.

Does not own: sockets.
-/

namespace SealedEnv.Exchange

/-- The time that a request may take beyond that of a subprocess. -/
def slack : Span := .ofSecs 5

/-- The time limit of a request; there is none if it would be too long. -/
def requestLimit? (subprocessLimit : Span) : Option Span := subprocessLimit.add? slack

inductive Route where
  | unsealing
  | health (headOnly : Bool)
  | notAllowed (methods : String)
  | notFound
deriving DecidableEq

def route (method path : String) : Route :=
  if path = "/" then
    if method = "POST" then .unsealing else .notAllowed "POST"
  else if path = "/health" then
    if method = "GET" then .health false
    else if method = "HEAD" then .health true
    else .notAllowed "GET,HEAD"
  else .notFound

/-- The text of the health reply: the time of day, and the whole seconds for which the service has
been up. -/
def healthText (now started : Nat) : String :=
  let time := timestamp (now / Nat.pow 10 9)
  let uptime := toString ((now - started) / Nat.pow 10 9)
  "\x7b\"status\":\"ok\",\"time\":\"" ++ time ++ "\",\"uptime\":\"" ++ uptime ++ "\"\x7d"

structure Service where
  unsealer : Unsealer (StateM World)
  bodyCap : Nat
  /-- The time that a request may take. -/
  limit : Span
  /-- The clock when the service came up. -/
  started : Nat

namespace Service

/-- The reply to a request, however long it takes. -/
def reply (service : Service) (request : Request) : StateM World Reply := do
  match route request.method request.path with
  | .unsealing => return .ofResult (← exchange service.unsealer service.bodyCap request.body)
  | .health headOnly =>
    let full := Reply.ofJson (healthText (← get).clock service.started)
    return if headOnly then full.head else full
  | .notAllowed methods => return .notAllowed methods
  | .notFound => return .notFound

/-- The reply to a request.  One that took the time limit or longer is given up when the limit
passes. -/
def respond (service : Service) (request : Request) : StateM World Reply := do
  let start := (← get).clock
  let reply ← service.reply request
  let stop := (← get).clock
  if start < stop ∧ start + service.limit.nanos ≤ stop then
    modify fun world => { world with clock := start + service.limit.nanos }
    return .late
  else return reply

end Service

end SealedEnv.Exchange
