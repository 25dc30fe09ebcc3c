import SealedEnv.Number.Binary64

/-!
Contract: numbers from texts.

Owns:
- `integer?`, decimal whole numbers of sixty-four bits with a sign;
- `real?`, decimal numbers with a point and an exponent, and the words for infinity and for what
  is no number.

Does not own: what a number is used for.
-/

namespace SealedEnv.Number

def splitSign : List Char → Bool × List Char
  | '-' :: rest => (true, rest)
  | '+' :: rest => (false, rest)
  | text => (false, text)

def ofDigits (digits : List Char) : Nat :=
  digits.foldl (fun value digit => value * 10 + (digit.toNat - 48)) 0

/-- A whole number with digits alone after its sign. -/
def wholeNumber? (text : List Char) : Option Int :=
  let (negative, digits) := splitSign text
  if digits.isEmpty || !digits.all Char.isDigit then none
  else if negative then some (-(ofDigits digits : Int)) else some (ofDigits digits)

/-- A whole number of sixty-four bits with a sign. -/
def integer? (text : List Char) : Option Int :=
  (wholeNumber? text).filter fun value =>
    -(Nat.pow 2 63 : Nat) ≤ value && value < (Nat.pow 2 63 : Nat)

def exponent? : List Char → Option Int
  | [] => some 0
  | mark :: rest => if mark = 'e' || mark = 'E' then wholeNumber? rest else none

/-- The digits after a point, and what follows them. -/
def splitFraction : List Char → List Char × List Char
  | '.' :: rest => rest.span Char.isDigit
  | text => ([], text)

/-- A decimal number without its sign. -/
def unsigned? (negative : Bool) (text : List Char) : Option Binary64 := do
  let (whole, rest) := text.span Char.isDigit
  let (fraction, rest) := splitFraction rest
  if whole.isEmpty && fraction.isEmpty then none
  else
    let exponent ← exponent? rest
    return .ofDecimal negative (ofDigits (whole ++ fraction)) (exponent - fraction.length)

/-- A decimal number, an infinity, or the word for what is no number. -/
def real? (text : List Char) : Option Binary64 :=
  let (negative, rest) := splitSign text
  let word := String.ofList (rest.map Char.toLower)
  if word = "inf" || word = "infinity" then some (.infinite negative)
  else if word = "nan" then some .nan
  else unsigned? negative rest

end SealedEnv.Number
