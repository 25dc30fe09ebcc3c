import SealedEnv.Text.Blank
import SealedEnv.Text.CaseFold
import SealedEnv.Text.DecimalDigit
import SealedEnv.Text.WordChar

/-!
Contract: the sets of characters that patterns name.

Owns:
- `CharClass` and its membership test;
- the named classes of bracket expressions.

Does not own: the written form of a class.
-/

namespace SealedEnv.Pattern

open Text

inductive CharClass where
  | ranges (members : CodeRanges)
  | digit
  | word
  | blank
  | complement (of : CharClass)
  | union (left right : CharClass)
  | inter (left right : CharClass)
  /-- Whatever differs from a member in case alone. -/
  | folded (of : CharClass)
deriving DecidableEq, Repr

namespace CharClass

def contains : CharClass → Char → Bool
  | ranges members, c => members.contains c
  | digit, c => isDecimalDigit c
  | word, c => isWordChar c
  | blank, c => isBlank c
  | complement of, c => !of.contains c
  | union left right, c => left.contains c || right.contains c
  | inter left right, c => left.contains c && right.contains c
  | folded of, c => (foldClass c).any of.contains

def none : CharClass := ranges []

def any : CharClass := ranges [(0, 0x10ffff)]

def single (c : Char) : CharClass := ranges [(c.toNat, c.toNat)]

def minus (left right : CharClass) : CharClass := inter left (complement right)

/-- The classes that a name in a bracket expression stands for; they hold ASCII alone. -/
def named? : List Char → Option CharClass
  | ['a', 'l', 'n', 'u', 'm'] => some (ranges [(0x30, 0x39), (0x41, 0x5a), (0x61, 0x7a)])
  | ['a', 'l', 'p', 'h', 'a'] => some (ranges [(0x41, 0x5a), (0x61, 0x7a)])
  | ['a', 's', 'c', 'i', 'i'] => some (ranges [(0, 0x7f)])
  | ['b', 'l', 'a', 'n', 'k'] => some (ranges [(0x9, 0x9), (0x20, 0x20)])
  | ['c', 'n', 't', 'r', 'l'] => some (ranges [(0, 0x1f), (0x7f, 0x7f)])
  | ['d', 'i', 'g', 'i', 't'] => some (ranges [(0x30, 0x39)])
  | ['g', 'r', 'a', 'p', 'h'] => some (ranges [(0x21, 0x7e)])
  | ['l', 'o', 'w', 'e', 'r'] => some (ranges [(0x61, 0x7a)])
  | ['p', 'r', 'i', 'n', 't'] => some (ranges [(0x20, 0x7e)])
  | ['p', 'u', 'n', 'c', 't'] =>
    some (ranges [(0x21, 0x2f), (0x3a, 0x40), (0x5b, 0x60), (0x7b, 0x7e)])
  | ['s', 'p', 'a', 'c', 'e'] => some (ranges [(0x9, 0xd), (0x20, 0x20)])
  | ['u', 'p', 'p', 'e', 'r'] => some (ranges [(0x41, 0x5a)])
  | ['w', 'o', 'r', 'd'] => some (ranges [(0x30, 0x39), (0x41, 0x5a), (0x5f, 0x5f), (0x61, 0x7a)])
  | ['x', 'd', 'i', 'g', 'i', 't'] => some (ranges [(0x30, 0x39), (0x41, 0x46), (0x61, 0x66)])
  | _ => Option.none

/-- A bound on the bytes that an automaton needs for one step over the class. -/
def weight : CharClass → Nat
  | ranges members => 32 + 8 * members.length
  | digit => 32 * decimalDigitRanges.length
  | word => 32 * wordRanges.length
  | blank => 320
  | complement of => of.weight + 320
  | union left right => left.weight + right.weight
  | inter left right => left.weight + right.weight
  | folded of => 2 * of.weight

end CharClass

end SealedEnv.Pattern
