import SealedEnv.Host.Script.Basic

/-!
Contract: the tokens of a script.

Owns:
- the quotations and expansions in a word;
- texts that follow the line of their redirection;
- `Tokens.read`, which fails where a quotation or an expansion is left open.

Does not own: how tokens form commands.
-/

namespace SealedEnv.Host

inductive Token where
  | word (held : Word)
  | sign (text : String)
  /-- A redirection, whose word is the next token. -/
  | redirect (stream : Nat) (kind : Redirect.Kind)
  /-- A redirection that reads a text. -/
  | text (stream : Nat) (held : Word)
deriving DecidableEq

namespace Tokens

def isNameChar (c : Char) : Bool := c.isAlphanum || c = '_'

def isNameStart (c : Char) : Bool := c.isAlpha || c = '_'

/-- Holds of the names of parameters that are one sign. -/
def isSpecial (c : Char) : Bool := ['@', '*', '#', '?', '$', '!', '-'].contains c

def endsWord (c : Char) : Bool := [' ', '\t', '\n', ';', '&', '|', '<', '>', '(', ')'].contains c

/-- Holds of the characters that keep a meaning in double quotes. -/
def isActive (c : Char) : Bool := ['"', '\\', '$', '\x60'].contains c

def isOrdinary (c : Char) : Bool := !endsWord c && c ≠ '\'' && !isActive c

/-- A quotation that is open. -/
inductive Quoting where
  | none
  | single
  | double
deriving DecidableEq

/-- The text before the sign that closes what an opening sign before it opened, and the text after
it. -/
def enclosed (opening closing : Char) :
    Quoting → Nat → List Char → Option (List Char × List Char)
  | _, _, [] => .none
  | .single, depth, c :: rest =>
    keep [c] (enclosed opening closing (if c = '\'' then .none else .single) depth rest)
  | quoting, depth, '\\' :: c :: rest =>
    keep ['\\', c] (enclosed opening closing quoting depth rest)
  | .double, depth, c :: rest =>
    keep [c] (enclosed opening closing (if c = '"' then .none else .double) depth rest)
  | .none, depth, c :: rest =>
    if c = closing then
      match depth with
      | 0 => some ([], rest)
      | depth + 1 => keep [c] (enclosed opening closing .none depth rest)
    else if c = opening then keep [c] (enclosed opening closing .none (depth + 1) rest)
    else if c = '\'' then keep [c] (enclosed opening closing .single depth rest)
    else if c = '"' then keep [c] (enclosed opening closing .double depth rest)
    else keep [c] (enclosed opening closing .none depth rest)
where
  /-- Puts characters before a text that was found. -/
  keep (front : List Char) (found : Option (List Char × List Char)) :
      Option (List Char × List Char) :=
    found.map fun found => (front ++ found.1, found.2)

/-- What follows the name of a parameter between braces. -/
def readTwist : List Char → Option Twist
  | [] => some .plain
  | ':' :: '-' :: word => some (.fallback true (String.ofList word))
  | '-' :: word => some (.fallback false (String.ofList word))
  | ':' :: '=' :: word => some (.assigned true (String.ofList word))
  | '=' :: word => some (.assigned false (String.ofList word))
  | ':' :: '+' :: word => some (.replaced true (String.ofList word))
  | '+' :: word => some (.replaced false (String.ofList word))
  | ':' :: '?' :: word => some (.demanded true (String.ofList word))
  | '?' :: word => some (.demanded false (String.ofList word))
  | '%' :: '%' :: pattern => some (.withoutBack true (String.ofList pattern))
  | '%' :: pattern => some (.withoutBack false (String.ofList pattern))
  | '#' :: '#' :: pattern => some (.withoutFront true (String.ofList pattern))
  | '#' :: pattern => some (.withoutFront false (String.ofList pattern))
  | _ => none

/-- The name at the front of a text between braces, and what follows it. -/
def readParameter : List Char → Option (String × List Char)
  | [] => none
  | c :: rest =>
    if isNameStart c then
      some (String.ofList (c :: rest.takeWhile isNameChar), rest.dropWhile isNameChar)
    else if c.isDigit then
      some (String.ofList (c :: rest.takeWhile Char.isDigit), rest.dropWhile Char.isDigit)
    else if isSpecial c then some (String.ofList [c], rest)
    else none

def readBraced (text : List Char) : Option Part :=
  match text with
  | '#' :: c :: rest => do
    match readParameter (c :: rest) with
    | some (name, []) => return .parameter name .length
    | _ => return .parameter "#" (← readTwist (c :: rest))
  | text => do
    let (name, rest) ← readParameter text
    return .parameter name (← readTwist rest)

def readDollar : List Char → Option (Part × List Char)
  | '(' :: '(' :: rest => do
    let (expression, rest) ← enclosed '(' ')' .none 0 rest
    match rest with
    | ')' :: rest => return (.number (String.ofList expression), rest)
    | _ => none
  | '(' :: rest => do
    let (script, rest) ← enclosed '(' ')' .none 0 rest
    return (.output (String.ofList script), rest)
  | '{' :: rest => do
    let (text, rest) ← enclosed '{' '}' .none 0 rest
    return (← readBraced text, rest)
  | c :: rest =>
    if isNameStart c then
      some (.parameter (String.ofList (c :: rest.takeWhile isNameChar)) .plain,
        rest.dropWhile isNameChar)
    else if c.isDigit || isSpecial c then some (.parameter (String.ofList [c]) .plain, rest)
    else some (.literal "$", c :: rest)
  | [] => some (.literal "$", [])

/-- Reads a script between backquotes, after the first of them. -/
def readBackquoted : List Char → Option (List Char × List Char)
  | [] => none
  | '\x60' :: rest => some ([], rest)
  | '\\' :: c :: rest =>
    (readBackquoted rest).map fun found =>
      ((if c = '\x60' || c = '\\' || c = '$' then [c] else ['\\', c]) ++ found.1, found.2)
  | c :: rest => (readBackquoted rest).map fun found => (c :: found.1, found.2)

def before (part : Part) (quoted : Bool) (found : Word × List Char) : Word × List Char :=
  (⟨part, quoted⟩ :: found.1, found.2)

/-- Reads pieces in double quotes in the first so many steps, up to the closing quote or, without
`closed`, up to the end. -/
def readDouble (closed : Bool) : Nat → List Char → Option (Word × List Char)
  | 0, _ => none
  | _, [] => if closed then none else some ([], [])
  | fuel + 1, '\\' :: c :: rest =>
    if c = '\n' then readDouble closed fuel rest
    else
      let stands := c = '$' || c = '\x60' || c = '\\' || closed && c = '"'
      (readDouble closed fuel rest).map
        (before (.literal (String.ofList (if stands then [c] else ['\\', c]))) true)
  | fuel + 1, c :: rest =>
    if c = '"' && closed then some ([], rest)
    else if c = '$' then do
      let (part, rest) ← readDollar rest
      return before part true (← readDouble closed fuel rest)
    else if c = '\x60' then do
      let (script, rest) ← readBackquoted rest
      return before (.output (String.ofList script)) true (← readDouble closed fuel rest)
    else
      (readDouble closed fuel (rest.dropWhile fun c => !isActive c)).map
        (before (.literal (String.ofList (c :: rest.takeWhile fun c => !isActive c))) true)

def readWord : Nat → List Char → Option (Word × List Char)
  | 0, _ => none
  | _, [] => some ([], [])
  | fuel + 1, '\\' :: rest =>
    match rest with
    | '\n' :: rest => readWord fuel rest
    | c :: rest => (readWord fuel rest).map (before (.literal (String.ofList [c])) true)
    | [] => some ([⟨.literal "\\", true⟩], [])
  | fuel + 1, c :: rest =>
    if endsWord c then some ([], c :: rest)
    else if c = '\'' then
      match rest.dropWhile (· ≠ '\'') with
      | [] => none
      | _ :: after =>
        (readWord fuel after).map
          (before (.literal (String.ofList (rest.takeWhile (· ≠ '\'')))) true)
    else if c = '"' then do
      let (pieces, rest) ← readDouble true (rest.length + 1) rest
      let (word, rest) ← readWord fuel rest
      let pieces := if pieces.isEmpty then [⟨.literal "", true⟩] else pieces
      return (pieces ++ word, rest)
    else if c = '$' then do
      let (part, rest) ← readDollar rest
      return before part false (← readWord fuel rest)
    else if c = '\x60' then do
      let (script, rest) ← readBackquoted rest
      return before (.output (String.ofList script)) false (← readWord fuel rest)
    else
      (readWord fuel (rest.dropWhile isOrdinary)).map
        (before (.literal (String.ofList (c :: rest.takeWhile isOrdinary))) false)

/-- A text that is still to be read: the line that ends it, whether it is taken as it is written,
and whether tabs before its lines go. -/
structure Awaited where
  closing : String
  raw : Bool
  untabbed : Bool

/-- Tokens, and the texts that belong to those among them that read a text. -/
structure Scanned where
  tokens : List Token
  texts : List Word

/-- The lines of a text up to one that closes it, and what follows. -/
def Awaited.take (awaited : Awaited) : List String → List String × List String
  | [] => ([], [])
  | line :: rest =>
    let line := if awaited.untabbed then String.ofList (line.toList.dropWhile (· = '\t')) else line
    if line = awaited.closing then ([], rest)
    else
      let (body, after) := awaited.take rest
      (line :: body, after)

/-- The word that a text is read as. -/
def Awaited.word (awaited : Awaited) (lines : List String) : Option Word :=
  let text := String.join (lines.map (· ++ "\n"))
  if awaited.raw then some [⟨.literal text, true⟩]
  else (readDouble false (text.length + 1) text.toList).map Prod.fst

def readTexts : List Awaited → List String → Option (List Word × List String)
  | [], lines => some ([], lines)
  | awaited :: more, lines => do
    let (body, after) := awaited.take lines
    let (words, rest) ← readTexts more after
    return ((← awaited.word body) :: words, rest)

def signs : List String := ["&&", "||", ";;", ";", "&", "|", "(", ")"]

/-- The signs of redirections, longer ones first, each with the stream it is about. -/
def redirections : List (String × Nat × Redirect.Kind) := [
  ("<<-", 0, .text), ("<<", 0, .text), ("<&", 0, .same), ("<", 0, .read), (">>", 1, .append),
  (">&", 1, .same), (">|", 1, .write), (">", 1, .write)]

/-- The text of a delimiter, and whether any of it is quoted. -/
def delimiter (word : Word) : String × Bool :=
  (String.join (word.map fun piece => match piece.part with
      | .literal text => text
      | _ => ""), word.any Piece.quoted)

def prepend (token : Token) (scanned : Scanned) : Scanned :=
  { scanned with tokens := token :: scanned.tokens }

/-- Reads tokens in the first so many steps. -/
def scan : Nat → List Awaited → List Char → Option Scanned
  | 0, _, _ => none
  | _, _, [] => some ⟨[], []⟩
  | fuel + 1, awaited, '\\' :: '\n' :: rest => scan fuel awaited rest
  | fuel + 1, awaited, c :: rest =>
    if c = ' ' || c = '\t' then scan fuel awaited rest
    else if c = '#' then scan fuel awaited (rest.dropWhile (· ≠ '\n'))
    else if c = '\n' then
      if awaited.isEmpty then (scan fuel [] rest).map (prepend (.sign "\n"))
      else do
        let (words, lines) ← readTexts awaited ((String.ofList rest).splitOn "\n")
        let scanned ← scan fuel [] ("\n".intercalate lines).toList
        return prepend (.sign "\n") { scanned with texts := words ++ scanned.texts }
    else
      let digits := (c :: rest).takeWhile Char.isDigit
      let after := (c :: rest).dropWhile Char.isDigit
      match redirections.find? fun entry => entry.1.toList.isPrefixOf after with
      | some (sign, stream, kind) =>
        let stream := (String.ofList digits).toNat?.getD stream
        let rest := after.drop sign.length
        if kind = .text then do
          let rest := rest.dropWhile fun c => c = ' ' || c = '\t'
          let (word, rest) ← readWord (rest.length + 1) rest
          let awaited := awaited ++ [⟨(delimiter word).1, (delimiter word).2, sign = "<<-"⟩]
          return prepend (.text stream []) (← scan fuel awaited rest)
        else (scan fuel awaited rest).map (prepend (.redirect stream kind))
      | none =>
        match signs.find? fun sign => sign.toList.isPrefixOf (c :: rest) with
        | some sign => (scan fuel awaited ((c :: rest).drop sign.length)).map (prepend (.sign sign))
        | none => do
          let (word, rest) ← readWord (rest.length + 2) (c :: rest)
          return prepend (.word word) (← scan fuel awaited rest)

/-- Gives the tokens that read a text their texts, in order. -/
def attach : List Word → List Token → List Token
  | word :: words, .text stream _ :: rest => .text stream word :: attach words rest
  | words, token :: rest => token :: attach words rest
  | _, [] => []

def read (text : String) : Option (List Token) :=
  (scan (text.length + 1) [] text.toList).map fun scanned => attach scanned.texts scanned.tokens

end Tokens

end SealedEnv.Host
