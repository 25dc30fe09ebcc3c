import SealedEnv.EnvMap
import SealedEnv.KeyName
import SealedEnv.Pattern.Matching
import SealedEnv.Variables

/-!
Contract: which variables of an environment are sent to be unsealed.

Owns:
- `select`, the map of the variables with a request key and a value in which a pattern occurs.

Does not own: the pattern.
-/

namespace SealedEnv.Launch

/-- A variable as two texts, if it is two texts. -/
def textual? (candidate : Variable) : Option (String × String) := do
  return (← Utf8.decode? candidate.1, ← Utf8.decode? candidate.2)

/-- Holds of the variables to send. -/
def isChosen (pattern : Pattern) (entry : String × String) : Bool :=
  isRequestKey entry.1 && pattern.occursIn entry.2

/-- The request for an environment.  Variables that are no texts are passed over. -/
def select (environment : List Variable) (pattern : Pattern) : EnvMap :=
  .ofList ((environment.filterMap textual?).filter (isChosen pattern))

end SealedEnv.Launch
