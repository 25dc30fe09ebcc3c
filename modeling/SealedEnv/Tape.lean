import SealedEnv.Text.Utf8

/-!
Contract: a source of random bytes as a finite tape that is read from its start.

Owns:
- the draw that fails, and takes nothing, when too little is left;
- the draw that fills up with zeros.

Does not own: where the bytes come from.
-/

namespace SealedEnv

/-- The random bytes that are still to be drawn. -/
abbrev Tape := Bytes

namespace Tape

def draw? (count : Nat) (tape : Tape) : Option (Bytes × Tape) :=
  if count ≤ tape.length then some (tape.take count, tape.drop count) else none

/-- Draws `count` bytes, with zeros in place of those that are missing. -/
def drawPadded (count : Nat) (tape : Tape) : Bytes × Tape :=
  (tape.take count ++ List.replicate (count - tape.length) 0, tape.drop count)

end Tape

end SealedEnv
