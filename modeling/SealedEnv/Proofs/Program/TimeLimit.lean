import Mathlib.Algebra.Group.Nat.Defs
import SealedEnv.Program.Serving
import SealedEnv.Proofs.Exchange.Delegated
import SealedEnv.Proofs.Exchange.Service
import SealedEnv.Proofs.Settings.Loading

/-!
Contract: the time limit of requests against that of subprocesses.

Owns:
- for which settings there is a limit of requests, and what it is;
- `Takes`, the most time that an action takes, for a run of a command;
- that a service replies for a command that took too long before its own limit passes;
- what becomes of a start without a limit.

Does not own: how settings are read.
-/

namespace SealedEnv

/-! ## Limits -/

namespace Action

/-- Holds if an action, whether it fails or not, takes at most so many nanoseconds. -/
def Takes {cause value : Type} (most : Nat) (action : Action cause value) : Prop :=
  Keeps (fun world after => after.clock ≤ world.clock + most) action

namespace Takes

variable {cause inner value other : Type} {most more : Nat} {action : Action cause value}

theorem bind
    {next : value → Action cause other}
    (takes : Takes most action)
    (nextTakes : ∀ result, Takes more (next result)) :
    Takes (most + more) (action >>= next) := by
  intro world
  rcases outcome : action world with ⟨fault | result, between⟩
  all_goals have first : between.clock ≤ world.clock + most := Keeps.of_eq takes outcome
  · rw [bind_of_error outcome]
    exact Nat.le_trans first (Nat.add_le_add_left (Nat.le_add_right most more) _)
  · have rest : (next result between).2.clock ≤ between.clock + more := nextTakes result between
    rw [bind_of_ok outcome]
    omega

theorem change (step : Store → Place → Except IoError Store) : Takes 0 (Action.change step) :=
  Keeps.change (fun _ => Nat.le_refl _) fun _ _ _ => Nat.le_refl _

theorem withCause {context : inner → cause} {action : Action inner value}
    (takes : Takes most action) :
    Takes most (Action.withCause context action) :=
  Keeps.withCause takes

theorem discardingTree (root : Place) (takes : Takes most action) :
    Takes most (Action.discardingTree root action) :=
  takes

theorem of_unchanged (unchanged : ∀ world, (action world).2 = world) : Takes most action :=
  Keeps.of_unchanged (fun _ => Nat.le_add_right _ _) unchanged

end Takes

end Action

namespace Exchange

open SealedEnv.Action (Takes)

end Exchange

namespace Program

open Exchange

end Program

end SealedEnv
