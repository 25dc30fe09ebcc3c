import SealedEnv.Host.Script.Token
import SealedEnv.Host.Shell.Basic

/-!
Contract: from words as they are written to the words of a command line.

Owns:
- patterns, and the names that fit them;
- arithmetical expressions;
- splitting of what is not quoted into several words.

Does not own: what a script in a word writes, which is asked of the one who expands.
-/

namespace SealedEnv.Host

/-- A character, and whether it was quoted. -/
abbrev Marked := Char × Bool

def inBrackets : List Marked → Char → Bool
  | (first, _) :: ('-', false) :: (last, _) :: rest, c =>
    (first ≤ c && c ≤ last) || inBrackets rest c
  | (one, _) :: rest, c => one = c || inBrackets rest c
  | [], _ => false

/-- Holds if a text fits a pattern, in the first so many steps. -/
def fitsWithin : Nat → List Marked → List Char → Bool
  | 0, _, _ => false
  | _, [], text => text.isEmpty
  | fuel + 1, (c, quoted) :: pattern, text =>
    if c = '*' && !quoted then
      fitsWithin fuel pattern text ||
        (!text.isEmpty && fitsWithin fuel ((c, quoted) :: pattern) text.tail)
    else
      match text with
      | [] => false
      | first :: rest =>
        let inner := pattern.takeWhile fun mark => mark ≠ (']', false)
        let after := pattern.drop (inner.length + 1)
        if c = '?' && !quoted then fitsWithin fuel pattern rest
        else if c = '[' && !quoted && inner.length < pattern.length then
          match inner with
          | ('!', false) :: excluded => !inBrackets excluded first && fitsWithin fuel after rest
          | included => inBrackets included first && fitsWithin fuel after rest
        else c = first && fitsWithin fuel pattern rest

def fits (pattern : List Marked) (text : List Char) : Bool :=
  fitsWithin (pattern.length + text.length + 1) pattern text

/-- The text of a word with its marks dropped. -/
def unmarked (field : List Marked) : String := String.ofList (field.map Prod.fst)

/-- A value without the shortest or the longest front that fits a pattern. -/
def withoutFront (longest : Bool) (pattern : List Marked) (value : List Char) : List Char :=
  let sizes := List.range (value.length + 1)
  let sizes := if longest then sizes.reverse else sizes
  match sizes.find? fun size => fits pattern (value.take size) with
  | some size => value.drop size
  | none => value

/-- A value without the shortest or the longest back that fits a pattern. -/
def withoutBack (longest : Bool) (pattern : List Marked) (value : List Char) : List Char :=
  let sizes := List.range (value.length + 1)
  let sizes := if longest then sizes else sizes.reverse
  match sizes.find? fun size => fits pattern (value.drop size) with
  | some size => value.take size
  | none => value

def isPattern (field : List Marked) : Bool :=
  field.any fun mark => !mark.2 && ['*', '?', '['].contains mark.1

/-- The names that fit a word if it is a pattern without slashes, else the word itself. -/
def namesFor (world : World) (field : List Marked) : Words :=
  let itself := unmarked field
  if !isPattern field || itself.toList.contains '/' then [itself]
  else
    let hidden := itself.startsWith "."
    let names := (world.store.names world.here).map spelled |>.filter fun name =>
      name.startsWith "." = hidden && fits field name.toList
    if names.isEmpty then [itself] else names.mergeSort fun left right => decide (left ≤ right)

/-! ### Arithmetic -/

def operators : List (List (String × (Int → Int → Int))) :=
  let truth := fun holds : Bool => if holds then (1 : Int) else 0
  [[("||", fun a b => truth (a ≠ 0 || b ≠ 0))],
    [("&&", fun a b => truth (a ≠ 0 && b ≠ 0))],
    [("==", fun a b => truth (a = b)), ("!=", fun a b => truth (a ≠ b))],
    [("<=", fun a b => truth (a ≤ b)), (">=", fun a b => truth (b ≤ a)),
      ("<", fun a b => truth (a < b)), (">", fun a b => truth (b < a))],
    [("+", (· + ·)), ("-", (· - ·))],
    [("*", (· * ·)), ("/", Int.tdiv), ("%", Int.tmod)]]

def skipBlanks (text : List Char) : List Char :=
  text.dropWhile fun c => c = ' ' || c = '\t' || c = '\n'

mutual

/-- Reads an expression of a level and all stronger ones, in the first so many steps. -/
def evaluateLevel (value : String → Int) : Nat → Nat → List Char → Option (Int × List Char)
  | 0, _, _ => none
  | fuel + 1, level, text => do
    match operators[level]? with
    | none => evaluateOperand value fuel (skipBlanks text)
    | some _ =>
      let (first, rest) ← evaluateLevel value fuel (level + 1) text
      evaluateRest value fuel level first rest

/-- Reads the operands that follow a first one on a level. -/
def evaluateRest (value : String → Int) :
    Nat → Nat → Int → List Char → Option (Int × List Char)
  | 0, _, _, _ => none
  | fuel + 1, level, first, text => do
    let text := skipBlanks text
    match (operators[level]?.getD []).find? fun entry => entry.1.toList.isPrefixOf text with
    | none => return (first, text)
    | some (sign, operator) =>
      let (second, rest) ← evaluateLevel value fuel (level + 1) (text.drop sign.length)
      evaluateRest value fuel level (operator first second) rest

def evaluateOperand (value : String → Int) : Nat → List Char → Option (Int × List Char)
  | 0, _ => none
  | fuel + 1, text => do
    match text with
    | '(' :: rest =>
      let (number, rest) ← evaluateLevel value fuel 0 rest
      match skipBlanks rest with
      | ')' :: rest => return (number, rest)
      | _ => none
    | '-' :: rest =>
      let (number, rest) ← evaluateOperand value fuel (skipBlanks rest)
      return (-number, rest)
    | '!' :: rest =>
      let (number, rest) ← evaluateOperand value fuel (skipBlanks rest)
      return (if number = 0 then 1 else 0, rest)
    | '$' :: rest => evaluateOperand value fuel rest
    | c :: rest =>
      let word := String.ofList (c :: rest.takeWhile Tokens.isNameChar)
      let rest := rest.dropWhile Tokens.isNameChar
      if c.isDigit then return ((word.toNat?).getD 0, rest)
      else if Tokens.isNameStart c then return (value word, rest)
      else none
    | [] => none

end

def evaluate (value : String → Int) (text : String) : Option Int :=
  match evaluateLevel value (10 * text.length + 10) 0 text.toList with
  | some (number, rest) => if (skipBlanks rest).isEmpty then some number else none
  | none => if (skipBlanks text.toList).isEmpty then some 0 else none

/-! ### Words -/

/-- Who runs the scripts in words and expands the words in expansions. -/
structure Expander where
  /-- What a script writes. -/
  output : String → Run String
  /-- The text of a word that is kept as it is written. -/
  text : (quoted : Bool) → String → Run (List Marked)

/-- Words while they are put together. -/
structure Fields where
  /-- The words that are complete, the last one first. -/
  complete : List (List Marked)
  /-- The word that goes on, its last character first. -/
  open? : Option (List Marked)

namespace Fields

def close (fields : Fields) : Fields :=
  match fields.open? with
  | some field => ⟨field.reverse :: fields.complete, none⟩
  | none => fields

def add (fields : Fields) (quoted : Bool) (text : List Char) : Fields :=
  let marked := text.reverse.map fun c => (c, quoted)
  { fields with open? := some (marked ++ fields.open?.getD []) }

def addSplit (separators : List Char) (fields : Fields) (text : List Char) : Fields :=
  text.foldl (fun fields c => if separators.contains c then fields.close else fields.add false [c])
    fields

/-- Adds words each of which is quoted: the first one goes on with what is there. -/
def addAll (fields : Fields) : Words → Fields
  | [] => fields
  | [last] => fields.add true last.toList
  | word :: rest => addAll (fields.add true word.toList).close rest

def done (fields : Fields) : List (List Marked) := fields.close.complete.reverse

end Fields

/-- The characters at which values are split. -/
def Shell.separators (shell : Shell) : List Char :=
  ((shell.get? "IFS").getD " \t\n").toList

def trimLines (text : String) : String :=
  String.ofList (text.toList.reverse.dropWhile (· = '\n')).reverse

/-- The value that stands where a parameter with a twist is expanded. -/
def twisted (expander : Expander) (name : String) (twist : Twist) (quoted : Bool) : Run String := do
  let value? := (← get).get? name
  let value := value?.getD ""
  let absent := fun emptyToo : Bool => value?.isNone || (emptyToo && value.isEmpty)
  match twist with
  | .plain => return value
  | .length => return toString value.length
  | .fallback emptyToo word =>
    if absent emptyToo then return unmarked (← expander.text quoted word) else return value
  | .assigned emptyToo word =>
    if absent emptyToo then
      let value := unmarked (← expander.text quoted word)
      modify fun shell => shell.set name value false
      return value
    else return value
  | .replaced emptyToo word =>
    if absent emptyToo then return "" else return unmarked (← expander.text quoted word)
  | .demanded emptyToo word =>
    if absent emptyToo then
      let word := unmarked (← expander.text quoted word)
      report (s!"{name}: " ++ if word.isEmpty then "parameter not set" else word)
      throw (.ended (.exited 2))
    else return value
  | .withoutFront longest pattern =>
    return String.ofList (withoutFront longest (← expander.text false pattern) value.toList)
  | .withoutBack longest pattern =>
    return String.ofList (withoutBack longest (← expander.text false pattern) value.toList)

def arithmetic (expander : Expander) (expression : String) : Run String := do
  let text := unmarked (← expander.text true expression)
  let shell ← get
  match evaluate (fun name => (readNumber? shell name).getD 0) text with
  | some number => return toString number
  | none =>
    report s!"arithmetic expression: expecting primary: \"{text}\""
    throw (.ended (.exited 2))
where
  /-- The number in a variable. -/
  readNumber? (shell : Shell) (name : String) : Option Int := do
    let text ← shell.get? name
    if text.startsWith "-" then (text.drop 1).toString.toNat?.map fun size => -(size : Int)
    else text.toNat?.map Int.ofNat

def addPiece (expander : Expander) (fields : Fields) (piece : Piece) : Run Fields := do
  let shell ← get
  let add := fun (text : String) =>
    if piece.quoted then fields.add true text.toList
    else fields.addSplit shell.separators text.toList
  match piece.part with
  | .literal text => return fields.add piece.quoted text.toList
  | .output script => return add (trimLines (← expander.output script))
  | .number expression => return add (← arithmetic expander expression)
  | .parameter "@" .plain =>
    if piece.quoted then return fields.addAll shell.arguments
    else return add (" ".intercalate shell.arguments)
  | .parameter name twist => return add (← twisted expander name twist piece.quoted)

/-- The words that a word stands for, before patterns are replaced. -/
def expandFields (expander : Expander) (word : Word) : Run (List (List Marked)) := do
  return (← word.foldlM (addPiece expander) ⟨[], none⟩).done

def expandAll (expander : Expander) (words : List Word) : Run Words := do
  let fields ← words.mapM (expandFields expander)
  let world := (← get).task.world
  return fields.flatten.flatMap (namesFor world)

/-- The one text that a word stands for where it is not split. -/
def expandMarked (expander : Expander) (word : Word) : Run (List Marked) := do
  let whole := word.map fun piece =>
    match piece.part with
    | .literal _ => piece
    | .parameter "@" .plain => { piece with part := .parameter "*" .plain }
    | _ => piece
  let pieces ← whole.mapM fun piece => do
    let fields ← addPiece expander ⟨[], none⟩ { piece with
      quoted := piece.quoted || !(piece.part matches .literal _) }
    return fields.done.flatten.map fun mark =>
      (mark.1, mark.2 && (piece.quoted || piece.part matches .literal _))
  return pieces.flatten

def expandText (expander : Expander) (word : Word) : Run String := do
  return unmarked (← expandMarked expander word)

/-- The pieces of a text that stands in an expansion without quotes, in the first so many steps. -/
def loosePieces : Nat → List Char → Word
  | 0, _ => []
  | _, [] => []
  | fuel + 1, c :: rest =>
    match Tokens.readWord (rest.length + 2) (c :: rest) with
    | some ([], _) => ⟨.literal (String.ofList [c]), false⟩ :: loosePieces fuel rest
    | some (word, after) => word ++ loosePieces fuel after
    | none => [⟨.literal (String.ofList (c :: rest)), false⟩]

/-- The pieces of a text that stands in an expansion. -/
def innerPieces (quoted : Bool) (text : String) : Word :=
  if quoted then ((Tokens.readDouble false (text.length + 1) text.toList).map Prod.fst).getD []
  else loosePieces (text.length + 1) text.toList

end SealedEnv.Host
