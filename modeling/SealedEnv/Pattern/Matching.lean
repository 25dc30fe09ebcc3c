import SealedEnv.Pattern.Basic

/-!
Contract: the search for a pattern in a text.

Owns:
- `residuals`, what remains of a pattern after one character;
- `occursIn`, which holds of a text with a stretch that fits the pattern.

Does not own: where the stretch lies; a search only tells whether there is one.
-/

namespace SealedEnv.Pattern

def nullable (place : Place) : Pattern → Bool
  | empty => true
  | one _ => false
  | anchor condition => condition.holds place
  | seq first second => first.nullable place && second.nullable place
  | alt left right => left.nullable place || right.nullable place
  | rep body least _ => least = 0 || body.nullable place

def andThen (first second : Pattern) : Pattern :=
  if first = empty then second else seq first second

/-- The patterns of which one fits a text exactly if the given one fits the text with `c` before
it.  The place is the one before `c`. -/
def residuals (place : Place) (c : Char) : Pattern → List Pattern
  | empty => []
  | one members => if members.contains c then [empty] else []
  | anchor _ => []
  | seq first second =>
    (first.residuals place c).map (andThen · second) ++
      if first.nullable place then second.residuals place c else []
  | alt left right => left.residuals place c ++ right.residuals place c
  | rep body least most =>
    if most = some 0 then []
    else
      let least := if body.nullable place then 0 else least - 1
      (body.residuals place c).map (andThen · (rep body least (most.map (· - 1))))

/-- Holds if a stretch of `rest` that starts here fits one of `live`, or one that starts here or
later fits `pattern`; `before` is the character before `rest`. -/
def occursAfter (pattern : Pattern) (before : Option Char) (live : List Pattern) :
    List Char → Bool
  | [] => (pattern :: live).any (nullable ⟨before, none⟩)
  | c :: rest =>
    let place : Place := ⟨before, some c⟩
    let live := (pattern :: live).eraseDups
    if live.any (nullable place) then true
    else occursAfter pattern (some c) (live.flatMap (residuals place c)) rest

/-- Holds of a text with a stretch that fits the pattern. -/
def occursIn (pattern : Pattern) (text : String) : Bool :=
  occursAfter pattern none [] text.toList

end SealedEnv.Pattern
