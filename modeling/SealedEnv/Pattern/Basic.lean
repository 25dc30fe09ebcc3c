import SealedEnv.Pattern.CharClass

/-!
Contract: patterns of texts, and how much an automaton for one would take.

Owns:
- `Pattern`, the shape of a pattern without captures, and `Anchor`, the conditions on a place;
- `weight`, by which patterns that are too large are refused.

Does not own: the written form of a pattern, or the search for it.
-/

namespace SealedEnv

namespace Pattern

/-- A condition on the place between two characters. -/
inductive Anchor where
  | textStart
  | textEnd
  | lineStart
  | lineEnd
  | wordEdge
  | notWordEdge
  | wordStart
  | wordEnd
deriving DecidableEq, Repr

/-- The characters beside a place in a text. -/
structure Place where
  before : Option Char
  after : Option Char

def isWordAt (c : Option Char) : Bool := c.any Text.isWordChar

def Anchor.holds (place : Place) : Anchor → Bool
  | textStart => place.before.isNone
  | textEnd => place.after.isNone
  | lineStart => place.before.all (· == '\n')
  | lineEnd => place.after.all (· == '\n')
  | wordEdge => isWordAt place.before != isWordAt place.after
  | notWordEdge => isWordAt place.before == isWordAt place.after
  | wordStart => !isWordAt place.before && isWordAt place.after
  | wordEnd => isWordAt place.before && !isWordAt place.after

end Pattern

/-- A set of texts, each at a place in a larger text. -/
inductive Pattern where
  /-- The empty text. -/
  | empty
  /-- One character of a class. -/
  | one (members : Pattern.CharClass)
  /-- The empty text where a condition is met. -/
  | anchor (condition : Pattern.Anchor)
  | seq (first second : Pattern)
  | alt (left right : Pattern)
  /-- At least and at most so many texts of the body, one after the other. -/
  | rep (body : Pattern) (least : Nat) (most : Option Nat)
deriving DecidableEq, Repr

namespace Pattern

/-- A bound on the bytes of an automaton for the pattern. -/
def weight : Pattern → Nat
  | empty => 32
  | one members => members.weight
  | anchor _ => 32
  | seq first second => first.weight + second.weight
  | alt left right => left.weight + right.weight + 64
  | rep body least most =>
    match most with
    | none => body.weight * max least 1 + 64
    | some most => body.weight * least + (body.weight + 64) * (most - least)

def weightLimit : Nat := 10 * Nat.pow 2 20

end Pattern

end SealedEnv
