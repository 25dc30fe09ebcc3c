/-!
Contract: numbers of the format binary64, in exact arithmetic.

Owns:
- `Binary64`, a significand and a power of two;
- rounding of a fraction to the nearest number, with ties to even significands;
- rounding of a number to a bounded whole number, with ties away from zero.

Does not own: texts of numbers.
-/

namespace SealedEnv.Number

/-- A number: `significand * 2 ^ exponent` with a sign, or one of the three values beyond. -/
inductive Binary64 where
  | finite (negative : Bool) (significand : Nat) (exponent : Int)
  | infinite (negative : Bool)
  | nan
deriving DecidableEq, Repr

def leastExponent : Int := -1074

def greatestExponent : Int := 971

def precision : Nat := 53

def powerOfTwo (exponent : Int) : Nat × Nat :=
  (Nat.pow 2 exponent.toNat, Nat.pow 2 (-exponent).toNat)

/-- The power of ten with a whole exponent, as a factor above and one below. -/
def powerOfTen (exponent : Int) : Nat × Nat :=
  (Nat.pow 10 exponent.toNat, Nat.pow 10 (-exponent).toNat)

/-- The whole number next to a fraction, the even one if there are two. -/
def divideToEven (above below : Nat) : Nat :=
  let quotient := above / below
  let rest := 2 * (above % below)
  if rest < below then quotient
  else if below < rest then quotient + 1
  else quotient + quotient % 2

/-- How often a fraction holds a power of two, rounded to even. -/
def timesPower (above below : Nat) (exponent : Int) : Nat :=
  let (up, down) := powerOfTwo exponent
  divideToEven (above * down) (below * up)

namespace Binary64

/-- The exponent with which the significand of a fraction has all its bits, or the least one. -/
def exponentOf (above below : Nat) : Int :=
  let guess : Int := (above.log2 : Int) - below.log2 - (precision - 1 : Nat)
  let (up, down) := powerOfTwo guess
  let exponent :=
    if above * down / (below * up) < Nat.pow 2 (precision - 1) then guess - 1 else guess
  max exponent leastExponent

def nearest (negative : Bool) (above below : Nat) : Binary64 :=
  if above = 0 then .finite negative 0 leastExponent
  else
    let exponent := exponentOf above below
    let significand := timesPower above below exponent
    let (significand, exponent) :=
      if significand = Nat.pow 2 precision then (Nat.pow 2 (precision - 1), exponent + 1)
      else (significand, exponent)
    if greatestExponent < exponent then .infinite negative
    else .finite negative significand exponent

/-- The number nearest to `digits * 10 ^ scale`.  Scales at which nothing but zero or infinity is
near are told apart by the number of digits alone. -/
def ofDecimal (negative : Bool) (digits : Nat) (scale : Int) : Binary64 :=
  let magnitude := ((Nat.toDigits 10 digits).length : Int) + scale
  if digits = 0 || magnitude < -330 then .finite negative 0 leastExponent
  else if 310 < magnitude then .infinite negative
  else
    let (up, down) := powerOfTen scale
    nearest negative (digits * up) down

/-- The nearest whole number from zero to `top`; a half goes up, and what is no number is zero. -/
def toNatUpTo (top : Nat) : Binary64 → Nat
  | finite false significand exponent =>
    let (up, down) := powerOfTwo exponent
    min top ((2 * significand * up + down) / (2 * down))
  | infinite false => top
  | _ => 0

def isZero : Binary64 → Bool
  | finite _ significand _ => significand = 0
  | _ => false

end Binary64

end SealedEnv.Number
