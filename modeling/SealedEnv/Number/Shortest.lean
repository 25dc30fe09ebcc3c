import SealedEnv.Number.Binary64

/-!
Contract: numbers as texts.

Owns:
- the shortest decimal that reads back as a number, and of those the nearest;
- its form without an exponent.

Does not own: reading numbers.
-/

namespace SealedEnv.Number

/-- The exponent of the greatest power of ten that a fraction holds. -/
def decimalExponent (above below : Nat) : Int :=
  if below ≤ above then ((Nat.toDigits 10 (above / below)).length : Int) - 1
  else
    Int.negOfNat (((List.range 400).find? fun places => below ≤ above * Nat.pow 10 places).getD 400)

/-- The decimals that read back as `significand * 2 ^ exponent`: those from `low` to `high` quarter
units, ends included if the significand is even. -/
structure Interval where
  low : Nat
  high : Nat
  closed : Bool
  /-- A quarter unit, as a factor above and one below. -/
  unit : Nat × Nat

/-- The interval of a number.  Below a power of two numbers lie twice as close. -/
def Interval.of (significand : Nat) (exponent : Int) : Interval where
  low :=
    if significand = Nat.pow 2 (precision - 1) && leastExponent < exponent then 4 * significand - 1
    else 4 * significand - 2
  high := 4 * significand + 2
  closed := significand % 2 = 0
  unit := powerOfTwo (exponent - 2)

/-- Holds if `digits * 10 ^ scale` lies in an interval. -/
def Interval.contains (interval : Interval) (digits : Nat) (scale : Int) : Bool :=
  let (up, down) := powerOfTen scale
  let value := digits * up * interval.unit.2
  let low := interval.low * interval.unit.1 * down
  let high := interval.high * interval.unit.1 * down
  if interval.closed then low ≤ value && value ≤ high else low < value && value < high

/-- The neighbour of a number on the grid of a power of ten that reads back as it, the nearer one
if both do. -/
def candidate? (significand : Nat) (exponent scale : Int) : Option Nat :=
  let interval := Interval.of significand exponent
  let (up, down) := powerOfTen scale
  let above := 4 * significand * interval.unit.1 * down
  let below := interval.unit.2 * up
  let digits := above / below
  let candidates := if 2 * above < (2 * digits + 1) * below then [digits, digits + 1]
    else [digits + 1, digits]
  candidates.find? fun digits => interval.contains digits scale

/-- The digits and the power of ten of the shortest decimal that reads back as a number. -/
def shortest (significand : Nat) (exponent : Int) : Nat × Int :=
  let (up, down) := powerOfTwo exponent
  let top := decimalExponent (significand * up) down
  let scales := (List.range 17).map fun (places : Nat) => top - places
  (scales.findSome? fun scale =>
    (candidate? significand exponent scale).map (·, scale)).getD (0, 0)

/-- Digits with a point in the right place and without zeros at the end of the places. -/
def positional (digits : List Char) (scale : Int) : List Char :=
  if 0 ≤ scale then digits ++ List.replicate scale.toNat '0'
  else
    let places := (-scale).toNat
    let padded := List.replicate (places + 1 - digits.length) '0' ++ digits
    let whole := padded.take (padded.length - places)
    let fraction := ((padded.drop (padded.length - places)).reverse.dropWhile (· == '0')).reverse
    if fraction.isEmpty then whole else whole ++ '.' :: fraction

/-- The text of a number: the shortest decimal that reads back, without an exponent. -/
def Binary64.text : Binary64 → String
  | .nan => "NaN"
  | .infinite negative => if negative then "-inf" else "inf"
  | .finite negative significand exponent =>
    let digits :=
      if significand = 0 then ['0']
      else positional (Nat.toDigits 10 (shortest significand exponent).1)
        (shortest significand exponent).2
    String.ofList (if negative then '-' :: digits else digits)

end SealedEnv.Number
