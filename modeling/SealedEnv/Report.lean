import SealedEnv.Text.Utf8

/-!
Contract: what is known of a program that has ended.

Owns:
- `Ending`, by its own will or by a signal;
- `Report`, the ending and what was written;
- `Panic`, for a program that breaks off and reports nothing of its own.

Does not own: programs.
-/

namespace SealedEnv

inductive Ending where
  | exited (code : Nat)
  | signalled (signal : Nat)
deriving DecidableEq

/-- What a program that ended leaves behind. -/
structure Report where
  ending : Ending
  output : Bytes
  errors : Bytes
deriving DecidableEq

/-- Why a program breaks off in the middle: something that has no result was asked for. -/
inductive Panic where
  /-- A sum of two spans is longer than every span. -/
  | spanOverflow
deriving DecidableEq

namespace Report

def success (output : String) : Report := ⟨.exited 0, Utf8.encode output, []⟩

/-- The report of a program that succeeded and had something to say about it. -/
def notice (errors : String) : Report := ⟨.exited 0, [], Utf8.encode errors⟩

/-- The report of a program that failed with a line of text. -/
def failure (code : Nat) (line : String) : Report := ⟨.exited code, [], Utf8.encode (line ++ "\n")⟩

end Report

end SealedEnv
