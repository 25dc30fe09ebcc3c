import SealedEnv.Failure
import SealedEnv.FlatJson

/-!
Contract: requests and replies of the exchange.

Owns:
- `Request` and `Reply`;
- the reply of a result, of an unknown path and of a method that a path does not take.

Does not own: how a result comes about.
-/

namespace SealedEnv.Exchange

structure Request where
  method : String
  /-- The path with its query. -/
  target : String
  body : Bytes

/-- The path that a target names: what stands before a query or a fragment. -/
def Request.path (request : Request) : String :=
  String.ofList (request.target.toList.takeWhile fun c => c ≠ '?' && c ≠ '#')

structure Reply where
  status : Nat
  contentType : Option String
  /-- The methods that a path takes, where the one used is not among them. -/
  allow : Option String
  body : Bytes
deriving DecidableEq

def textType : String := "text/plain; charset=utf-8"

def jsonType : String := "application/json"

namespace Reply

def ofText (status : Nat) (text : String) : Reply :=
  ⟨status, some textType, none, Utf8.encode text⟩

def ofJson (text : String) : Reply := ⟨200, some jsonType, none, Utf8.encode text⟩

/-- The reply that reports a result: the plaintexts, or the failure in words. -/
def ofResult : Except Failure EnvMap → Reply
  | .ok values => ofJson (FlatJson.encode values)
  | .error failure => ofText failure.status (failure.message ++ "\n")

def notFound : Reply := ofText 404 "404 page not found\n"

/-- The reply for a method that a path does not take. -/
def notAllowed (methods : String) : Reply := ⟨405, none, some methods, []⟩

/-- The reply of a request that took too long. -/
def late : Reply := ⟨408, none, none, []⟩

/-- The reply as it is sent to one who asked for its head alone. -/
def head (reply : Reply) : Reply := { reply with body := [] }

end Reply

end SealedEnv.Exchange
