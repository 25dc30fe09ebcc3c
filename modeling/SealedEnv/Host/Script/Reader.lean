import SealedEnv.Host.Script.Token

/-!
Contract: from the text of a script to its tree.

Owns:
- the grammar of commands, with its reserved words;
- `Script.read?`, which fails for a text that is no script.

Does not own: tokens.
-/

namespace SealedEnv.Host

namespace Grammar

/-- The words that stand for themselves at the beginning of a command. -/
def reserved : List String :=
  ["if", "then", "elif", "else", "fi", "do", "done", "case", "esac", "while", "until", "for",
    "\x7b", "\x7d", "!", "in"]

def closingWords : List String := ["then", "elif", "else", "fi", "do", "done", "esac", "\x7d"]

def skipLines : List Token → List Token
  | .sign "\n" :: rest => skipLines rest
  | tokens => tokens

def front? : List Token → Option String
  | .word word :: _ => word.plain?.filter reserved.contains
  | _ => none

def expect? (name : String) (tokens : List Token) : Option (List Token) :=
  let tokens := skipLines tokens
  if front? tokens = some name then some tokens.tail else none

/-- A word that gives a value to a variable. -/
def assignment? : Word → Option (String × Word)
  | ⟨.literal text, false⟩ :: rest =>
    let name := text.toList.takeWhile Tokens.isNameChar
    match name, text.toList.drop name.length with
    | first :: _, '=' :: value =>
      if Tokens.isNameStart first then
        let front : Word := if value.isEmpty then [] else [⟨.literal (String.ofList value), false⟩]
        some (String.ofList name, front ++ rest)
      else none
    | _, _ => none
  | _ => none

def redirect? : List Token → Option (Redirect × List Token)
  | .text stream held :: rest => some (⟨stream, .text, held⟩, rest)
  | .redirect stream kind :: .word word :: rest => some (⟨stream, kind, word⟩, rest)
  | _ => none

def redirects : Nat → List Token → List Redirect × List Token
  | 0, tokens => ([], tokens)
  | fuel + 1, tokens =>
    match redirect? tokens with
    | some (redirect, rest) =>
      let (more, rest) := redirects fuel rest
      (redirect :: more, rest)
    | none => ([], tokens)

structure Simple where
  assignments : List (String × Word)
  words : List Word
  redirects : List Redirect

def simple : Nat → Simple → List Token → Simple × List Token
  | 0, found, tokens => (found, tokens)
  | fuel + 1, found, tokens =>
    match redirect? tokens, tokens with
    | some (redirect, rest), _ =>
      simple fuel { found with redirects := found.redirects ++ [redirect] } rest
    | none, .word word :: rest =>
      match (if found.words.isEmpty then assignment? word else none) with
      | some assignment =>
        simple fuel { found with assignments := found.assignments ++ [assignment] } rest
      | none => simple fuel { found with words := found.words ++ [word] } rest
    | none, tokens => (found, tokens)

def patterns : List Token → Option (List Word × List Token)
  | .word word :: .sign "|" :: rest =>
    (patterns rest).map fun found => (word :: found.1, found.2)
  | .word word :: .sign ")" :: rest => some ([word], rest)
  | _ => none

/-- The words of a loop, up to the end of the command. -/
def loopWords : List Token → List Word × List Token
  | .word word :: rest => (word :: (loopWords rest).1, (loopWords rest).2)
  | tokens => ([], tokens)

/-- A script read so far, and the tokens that are left. -/
abbrev Reading := Option (Script × List Token)

mutual

/-- Reads commands up to a sign or a reserved word that belongs to something around them. -/
def commands : Nat → List Token → Reading
  | 0, _ => none
  | fuel + 1, tokens => do
    let tokens := skipLines tokens
    match tokens with
    | [] => return (.empty, [])
    | .sign ")" :: _ => return (.empty, tokens)
    | .sign ";;" :: _ => return (.empty, tokens)
    | _ =>
      if (front? tokens).any closingWords.contains then return (.empty, tokens)
      let (first, rest) ← chain fuel tokens
      match rest with
      | .sign "&" :: rest =>
        let (others, rest) ← commands fuel rest
        return (.sequence (.background first) others, rest)
      | .sign ";" :: rest =>
        let (others, rest) ← commands fuel rest
        return (.sequence first others, rest)
      | .sign "\n" :: rest =>
        let (others, rest) ← commands fuel rest
        return (.sequence first others, rest)
      | rest => return (first, rest)

/-- Reads pipelines that depend on each other's success. -/
def chain : Nat → List Token → Reading
  | 0, _ => none
  | fuel + 1, tokens => do
    let (first, rest) ← pipeline fuel tokens
    links fuel first rest

/-- Reads what depends on the success of a script. -/
def links : Nat → Script → List Token → Reading
  | 0, _, _ => none
  | fuel + 1, first, .sign "&&" :: rest => do
    let (second, rest) ← pipeline fuel (skipLines rest)
    links fuel (.both first second) rest
  | fuel + 1, first, .sign "||" :: rest => do
    let (second, rest) ← pipeline fuel (skipLines rest)
    links fuel (.either first second) rest
  | _, first, rest => some (first, rest)

def pipeline : Nat → List Token → Reading
  | 0, _ => none
  | fuel + 1, tokens => do
    if front? tokens = some "!" then
      let (body, rest) ← pipeline fuel tokens.tail
      return (.negated body, rest)
    let (first, rest) ← command fuel tokens
    match rest with
    | .sign "|" :: rest =>
      let (second, rest) ← pipeline fuel (skipLines rest)
      return (.pipe first second, rest)
    | rest => return (first, rest)

def command : Nat → List Token → Reading
  | 0, _ => none
  | fuel + 1, tokens => do
    match tokens with
    | .sign "(" :: rest =>
      let (body, rest) ← commands fuel rest
      match rest with
      | .sign ")" :: rest => return finish (.subshell body) rest
      | _ => none
    | .word name :: .sign "(" :: .sign ")" :: rest =>
      let name ← name.plain?
      let (body, rest) ← command fuel (skipLines rest)
      return (.define name body, rest)
    | _ =>
      match front? tokens with
      | some "\x7b" =>
        let (body, rest) ← commands fuel tokens.tail
        return finish body (← expect? "\x7d" rest)
      | some "if" =>
        let (body, rest) ← condition fuel tokens.tail
        return finish body rest
      | some "while" => loop fuel true tokens.tail
      | some "until" => loop fuel false tokens.tail
      | some "for" => loopOverWords fuel tokens.tail
      | some "case" =>
        match tokens.tail with
        | .word word :: rest =>
          let (body, rest) ← choice fuel word (← expect? "in" rest)
          return finish body rest
        | _ => none
      | some "!" | some "in" | none =>
        let (found, rest) := simple tokens.length ⟨[], [], []⟩ tokens
        if found.assignments.isEmpty && found.words.isEmpty && found.redirects.isEmpty then none
        return (.simple found.assignments found.words found.redirects, rest)
      | some _ => none

/-- Reads a condition and what follows from it, after the word that starts it. -/
def condition : Nat → List Token → Reading
  | 0, _ => none
  | fuel + 1, tokens => do
    let (asked, rest) ← commands fuel tokens
    let (yes, rest) ← commands fuel (← expect? "then" rest)
    match front? rest with
    | some "elif" =>
      let (no, rest) ← condition fuel rest.tail
      return (.branch asked yes no, rest)
    | some "else" =>
      let (no, rest) ← commands fuel rest.tail
      return (.branch asked yes no, ← expect? "fi" rest)
    | _ => return (.branch asked yes .empty, ← expect? "fi" rest)

def loop : Nat → Bool → List Token → Reading
  | 0, _, _ => none
  | fuel + 1, success, tokens => do
    let (asked, rest) ← commands fuel tokens
    let (body, rest) ← commands fuel (← expect? "do" rest)
    return finish (.loop success asked body) (← expect? "done" rest)

/-- Reads a loop over words, after the word that starts it. -/
def loopOverWords : Nat → List Token → Reading
  | 0, _ => none
  | fuel + 1, tokens => do
    match tokens with
    | .word name :: rest =>
      let name ← name.plain?
      let (words, rest) :=
        match expect? "in" rest with
        | some rest => (some (loopWords rest).1, (loopWords rest).2)
        | none => (none, rest)
      let rest := if rest.head? = some (.sign ";") then rest.tail else rest
      let (body, rest) ← commands fuel (← expect? "do" rest)
      return finish (.each name words body) (← expect? "done" rest)
    | _ => none

def choice : Nat → Word → List Token → Reading
  | 0, _, _ => none
  | fuel + 1, word, tokens => do
    let tokens := skipLines tokens
    if front? tokens = some "esac" then return (.empty, tokens.tail)
    let (fits, rest) ← patterns (if tokens.head? = some (.sign "(") then tokens.tail else tokens)
    let (body, rest) ← commands fuel rest
    let rest := skipLines rest
    let (otherwise, rest) ←
      choice fuel word (if rest.head? = some (.sign ";;") then rest.tail else rest)
    return (.choose word fits body otherwise, rest)

/-- Adds the redirections after a command. -/
def finish (body : Script) (rest : List Token) : Script × List Token :=
  let (found, rest) := redirects rest.length rest
  (if found.isEmpty then body else .redirected body found, rest)

end

end Grammar

/-- Reads a script.  Each token takes a few steps at most. -/
def Script.read? (text : String) : Option Script := do
  let tokens ← Tokens.read text
  match ← Grammar.commands (8 * tokens.length + 8) tokens with
  | (script, []) => return script
  | _ => none

end SealedEnv.Host
