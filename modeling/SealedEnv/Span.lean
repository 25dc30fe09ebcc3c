/-!
Contract: spans of time in whole nanoseconds.

Owns:
- `Span`, bounded by the longest span of sixty-four bits of seconds;
- saturating doubling, with its law, and the text of a span.

Does not own: clocks.
-/

namespace SealedEnv

structure Span where
  nanos : Nat
  bounded : nanos < Nat.pow 2 64 * Nat.pow 10 9 := by decide
deriving DecidableEq

namespace Span

/-- The number of nanoseconds that no span reaches. -/
def bound : Nat := Nat.pow 2 64 * Nat.pow 10 9

def zero : Span := ⟨0, by decide⟩

instance : Inhabited Span := ⟨zero⟩

def longest : Span := ⟨bound - 1, by decide⟩

def ofNanos? (nanos : Nat) : Option Span :=
  if bounded : nanos < Nat.pow 2 64 * Nat.pow 10 9 then some ⟨nanos, bounded⟩ else none

/-- The span of that many nanoseconds, or the longest one. -/
def saturating (nanos : Nat) : Span := (ofNanos? nanos).getD longest

def ofSecs (secs : Nat) : Span := saturating (secs * Nat.pow 10 9)

def ofMillis (millis : Nat) : Span := saturating (millis * Nat.pow 10 6)

def secs (span : Span) : Nat := span.nanos / Nat.pow 10 9

def millis (span : Span) : Nat := span.nanos / Nat.pow 10 6

def min (left right : Span) : Span := if left.nanos ≤ right.nanos then left else right

def double (span : Span) : Span := saturating (2 * span.nanos)

/-- The sum of two spans, if there is one. -/
def add? (left right : Span) : Option Span := ofNanos? (left.nanos + right.nanos)

theorem nanos_saturating (nanos : Nat) :
    (saturating nanos).nanos = Nat.min nanos (bound - 1) := by
  unfold saturating ofNanos?
  split
  · rename_i bounded
    exact (Nat.min_eq_left (Nat.le_sub_one_of_lt bounded)).symm
  · rename_i unbounded
    exact (Nat.min_eq_right (Nat.le_trans (Nat.sub_le bound 1) (Nat.le_of_not_lt unbounded))).symm

theorem nanos_min (left right : Span) :
    (left.min right).nanos = Nat.min left.nanos right.nanos := by
  unfold Span.min
  split
  · rename_i le
    exact (Nat.min_eq_left le).symm
  · rename_i notLe
    exact (Nat.min_eq_right (Nat.le_of_not_le notLe)).symm

theorem nanos_le (span : Span) : span.nanos ≤ bound - 1 :=
  Nat.le_sub_one_of_lt span.bounded

/-- The digits of `fraction` out of `unit`, a power of ten, without zeros at the end. -/
def fractionDigits (fraction unit : Nat) : List Char :=
  let digits := (Nat.toDigits 10 (unit + fraction)).drop 1
  (digits.reverse.dropWhile (· == '0')).reverse

/-- A number of parts of `unit`, as a decimal. -/
def decimal (parts unit : Nat) : String :=
  match fractionDigits (parts % unit) unit with
  | [] => toString (parts / unit)
  | digits => toString (parts / unit) ++ "." ++ String.ofList digits

/-- The text of a span: in the largest of the units s, ms, µs and ns of which it holds at least
one, with as many decimals as needed. -/
def text (span : Span) : String :=
  if Nat.pow 10 9 ≤ span.nanos then decimal span.nanos (Nat.pow 10 9) ++ "s"
  else if Nat.pow 10 6 ≤ span.nanos then decimal span.nanos (Nat.pow 10 6) ++ "ms"
  else if Nat.pow 10 3 ≤ span.nanos then decimal span.nanos (Nat.pow 10 3) ++ "µs"
  else toString span.nanos ++ "ns"

end Span

end SealedEnv
