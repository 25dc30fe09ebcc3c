import SealedEnv.Launch.Acceptance

/-!
Contract: repeating a request until it is accepted.

Owns:
- `Policy`, under which every wait is twice as long as the one before, up to a longest one;
- `fetch`, the loop over attempts and waits.

Does not own: how an attempt is made, or how one waits.
-/

namespace SealedEnv.Launch

/-- The first wait and the longest of those after it. -/
structure Policy where
  first : Span
  longest : Span
deriving DecidableEq

/-- The waits of a program that was not told otherwise: one second at first, thirty at most. -/
def Policy.standard : Policy := ⟨.ofSecs 1, .ofSecs 30⟩

/-- The wait after a wait. -/
def Policy.next (policy : Policy) (wait : Span) : Span := wait.double.min policy.longest

/-- Makes at most `attempts` attempts, with a wait after each rejected one, and gives the
plaintexts of the first accepted one. -/
def fetchAfter
    {m : Type → Type}
    [Monad m]
    (post : m Attempt)
    (pause : Span → m Unit)
    (policy : Policy)
    (request : EnvMap) :
    (attempts : Nat) → (wait : Span) → m (Option EnvMap)
  | 0, _ => pure none
  | attempts + 1, wait => do
    match accept (← post) request with
    | .ok values => pure (some values)
    | .error _ => do
      pause wait
      fetchAfter post pause policy request attempts (policy.next wait)

/-- Makes attempts until one is accepted, or `attempts` of them have been made. -/
def fetch
    {m : Type → Type}
    [Monad m]
    (post : m Attempt)
    (pause : Span → m Unit)
    (policy : Policy)
    (request : EnvMap)
    (attempts : Nat) :
    m (Option EnvMap) :=
  fetchAfter post pause policy request attempts policy.first

end SealedEnv.Launch
