import SealedEnv.Host.Tool.Tree

/-!
Contract: conditions on texts, numbers and files.

Owns:
- the conditions with one operand and with two;
- `holds?`, which reads a condition by the number of its words.

Does not own: what follows from a condition.
-/

namespace SealedEnv.Host.Tool

def nodeCondition? : String → Option (Node → Bool)
  | "-e" => some fun _ => true
  | "-f" => some fun node => ["regular file", "regular empty file"].contains (kindOf node)
  | "-d" => some fun node => kindOf node = "directory"
  | "-S" => some fun node => kindOf node = "socket"
  | "-c" => some fun node => node = .void
  | "-s" => some fun node => 0 < sizeOf node
  | "-r" | "-w" => some fun _ => true
  | "-x" => some fun node => modeOf node &&& 0o111 ≠ 0
  | _ => none

def unary? (world : World) (operator operand : String) : Option Bool :=
  match operator with
  | "-n" => some (operand ≠ "")
  | "-z" => some (operand = "")
  | "-t" => some false
  | "-L" | "-h" =>
    some ((world.store.node world.here (bytes operand) false).toOption.any fun node =>
      kindOf node = "symbolic link")
  | _ => (nodeCondition? operator).map fun condition =>
    (world.store.node world.here (bytes operand) true).toOption.any condition

def comparison? : String → Option (Int → Int → Bool)
  | "-eq" => some fun left right => left = right
  | "-ne" => some fun left right => left ≠ right
  | "-lt" => some fun left right => left < right
  | "-le" => some fun left right => left ≤ right
  | "-gt" => some fun left right => right < left
  | "-ge" => some fun left right => right ≤ left
  | _ => none

def binary? (left operator right : String) : Option Bool :=
  match operator with
  | "=" | "==" => some (left = right)
  | "!=" => some (left ≠ right)
  | "<" => some (left < right)
  | ">" => some (right < left)
  | _ => do
    let compare ← comparison? operator
    let (first, isFirst) := readNumber left.toList
    let (second, isSecond) := readNumber right.toList
    if isFirst && isSecond then return compare first second else none

/-- The parts of a condition around the first word that joins two conditions. -/
def joined? (joint : String) (words : Words) : Option (Words × Words) :=
  let first := words.takeWhile (· ≠ joint)
  if first.isEmpty || first.length = words.length then none
  else some (first, words.drop (first.length + 1))

/-- Tells whether a condition that holds other conditions holds. -/
def compound? (inner : Words → Option Bool) (words : Words) : Option Bool :=
  match joined? "-o" words, joined? "-a" words, words with
  | some (left, right), _, _ => do return (← inner left) || (← inner right)
  | none, some (left, right), _ => do return (← inner left) && (← inner right)
  | none, none, "!" :: rest => (inner rest).map not
  | none, none, "(" :: rest => if rest.getLast? = some ")" then inner rest.dropLast else none
  | _, _, _ => none

/-- Tells whether a condition holds, if it is one, in the first so many steps. -/
def holdsWithin? (world : World) : Nat → Words → Option Bool
  | 0, _ => none
  | _, [] => some false
  | _, [word] => some (word ≠ "")
  | _, ["!", operand] => some (operand = "")
  | _, [operator, operand] => unary? world operator operand
  | fuel + 1, [left, operator, right] =>
    (binary? left operator right).or
      (compound? (holdsWithin? world fuel) [left, operator, right])
  | fuel + 1, words => compound? (holdsWithin? world fuel) words

def holds? (world : World) (words : Words) : Option Bool :=
  holdsWithin? world (words.length + 1) words

def test : Tool := fun arguments => do
  match holds? (← get).world arguments with
  | some true => return 0
  | some false => return 1
  | none =>
    complain ("test: " ++ arguments.headD "" ++ ": unexpected operator")
    return 2

def bracket : Tool := fun arguments =>
  if arguments.getLast? = some "]" then test arguments.dropLast
  else do
    complain "[: missing ]"
    return 2

end SealedEnv.Host.Tool
