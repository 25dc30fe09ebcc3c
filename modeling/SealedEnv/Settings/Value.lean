import SealedEnv.Number.Reader
import SealedEnv.Number.Shortest

/-!
Contract: the values of settings.

Owns:
- `Value.guess`, which takes a text for a truth value, a whole number, a number or a text, in that
  order;
- the readings of a value as a text, as a whole number and as a truth value.

Does not own: which setting is read in which way.
-/

namespace SealedEnv.Settings

/-- What a text is taken for. -/
inductive Value where
  | truth (holds : Bool)
  | integer (number : Int)
  | real (number : Number.Binary64)
  | text (held : String)
deriving DecidableEq

def small (text : String) : String := String.ofList (text.toList.map Char.toLower)

def greatest : Nat := Nat.pow 2 64 - 1

namespace Value

def guess (text : String) : Value :=
  if small text = "true" then truth true
  else if small text = "false" then truth false
  else match Number.integer? text.toList with
    | some number => integer number
    | none =>
      match Number.real? text.toList with
      | some number => real number
      | none => .text text

def asText : Value → String
  | truth true => "true"
  | truth false => "false"
  | integer number => toString number
  | real number => number.text
  | text held => held

def asNat? : Value → Option Nat
  | truth holds => some holds.toNat
  | integer number => if 0 ≤ number then some number.toNat else none
  | real number => some (number.toNatUpTo greatest)
  | text held =>
    if ["true", "on", "yes"].contains (small held) then some 1
    else if ["false", "off", "no"].contains (small held) then some 0
    else none

def asTruth? : Value → Option Bool
  | truth holds => some holds
  | integer number => some (number ≠ 0)
  | real number => some !number.isZero
  | text held =>
    if ["1", "true", "on", "yes"].contains (small held) then some true
    else if ["0", "false", "off", "no"].contains (small held) then some false
    else none

end Value

end SealedEnv.Settings
