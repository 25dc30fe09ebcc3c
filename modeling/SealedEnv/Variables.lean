import SealedEnv.Store.World

/-!
Contract: environments as lists of variables.

Owns:
- the reserved names, which are not handed on to other programs;
- the two readings of a name as reserved: by its bytes and by its text;
- the form in which an environment is handed to a program.

Does not own: which values are replaced on the way.
-/

namespace SealedEnv

def reservedStart : String := "OJSTER_"

/-- Holds of the names whose bytes start as a reserved one. -/
def isReserved (name : Bytes) : Bool := (Utf8.encode reservedStart).isPrefixOf name

/-- Holds of the names whose text, read with replacements, starts as a reserved one. -/
def isReservedText (name : Bytes) : Bool :=
  reservedStart.toList.isPrefixOf (Utf8.decodeLossy name).toList

namespace Variables

def get? (environment : List Variable) (name : String) : Option Bytes :=
  environment.lookup (Utf8.encode name)

/-- Holds if the first byte string comes before the second one. -/
def isBefore (left right : Bytes) : Bool := decide (left < right)

/-- Puts a variable where its name belongs, in place of one of the same name. -/
def insert (added : Variable) : List Variable → List Variable
  | [] => [added]
  | head :: rest =>
    if isBefore added.1 head.1 then added :: head :: rest
    else if added.1 = head.1 then added :: rest
    else head :: insert added rest

def sorted (environment : List Variable) : List Variable :=
  environment.foldl (fun done added => insert added done) []

/-- The environment of a program that is run to help with a request.  It is put in order only where
a variable is left out; else it is handed on as it is. -/
def handedOn (environment : List Variable) : List Variable :=
  if environment.any fun candidate => isReservedText candidate.1 then
    sorted (environment.filter fun candidate => !isReservedText candidate.1)
  else environment

end Variables

end SealedEnv
