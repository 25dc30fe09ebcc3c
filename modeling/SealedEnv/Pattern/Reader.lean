import SealedEnv.Pattern.Basic

/-!
Contract: the written form of patterns.

Owns:
- `ofString?`, which reads literals, classes, groups, alternatives, repetitions, anchors, escapes
  and the flags `i`, `m`, `s` and `U`;
- the refusals: unbalanced brackets, repetitions of nothing, look-around and back references,
  reversed ranges, nesting deeper than 250, and patterns above the weight limit.

Does not own: captures, of which only the names are checked.
-/

namespace SealedEnv.Pattern

/-! ## Escapes -/

inductive Escape where
  | char (c : Char)
  | members (members : CharClass)
  | anchor (condition : Anchor)

def hexValue? (c : Char) : Option Nat :=
  if c.isDigit then some (c.toNat - 48)
  else if 'a' ≤ c && c ≤ 'f' then some (c.toNat - 87)
  else if 'A' ≤ c && c ≤ 'F' then some (c.toNat - 55)
  else none

def hexChar? (digits : List Char) : Option Char := do
  if digits.isEmpty then none
  let code ← digits.foldlM (fun code c => return code * 16 + (← hexValue? c)) 0
  if code.isValidChar then some (Char.ofNat code) else none

/-- Reads the digits of a character: `width` of them, or any number between braces. -/
def readHex (width : Nat) (text : List Char) : Option (Char × List Char) :=
  match text with
  | '\x7b' :: rest =>
    match rest.dropWhile (· ≠ '\x7d') with
    | [] => none
    | _ :: after => (hexChar? (rest.takeWhile (· ≠ '\x7d'))).map (·, after)
  | _ =>
    if text.length < width then none
    else (hexChar? (text.take width)).map (·, text.drop width)

def readEscape : List Char → Option (Escape × List Char)
  | [] => none
  | c :: rest =>
    if c = 'x' then (readHex 2 rest).map fun (c, rest) => (.char c, rest)
    else if c = 'u' then (readHex 4 rest).map fun (c, rest) => (.char c, rest)
    else if c = 'U' then (readHex 8 rest).map fun (c, rest) => (.char c, rest)
    else
      let meaning : Option Escape :=
        match c with
        | 'd' => some (.members .digit)
        | 'D' => some (.members (.complement .digit))
        | 's' => some (.members .blank)
        | 'S' => some (.members (.complement .blank))
        | 'w' => some (.members .word)
        | 'W' => some (.members (.complement .word))
        | 'a' => some (.char '\x07')
        | 'f' => some (.char '\x0c')
        | 't' => some (.char '\t')
        | 'n' => some (.char '\n')
        | 'r' => some (.char '\r')
        | 'v' => some (.char '\x0b')
        | 'A' => some (.anchor .textStart)
        | 'z' => some (.anchor .textEnd)
        | 'b' => some (.anchor .wordEdge)
        | 'B' => some (.anchor .notWordEdge)
        | '<' => some (.anchor .wordStart)
        | '>' => some (.anchor .wordEnd)
        | _ => if c.toNat < 128 && !c.isAlphanum then some (.char c) else none
      meaning.map (·, rest)

/-! ## Bracket expressions -/

inductive ClassOperator where
  | inter
  | minus
  | symmetric

def ClassOperator.apply (op : ClassOperator) (left right : CharClass) : CharClass :=
  match op with
  | inter => .inter left right
  | minus => .minus left right
  | symmetric => .union (.minus left right) (.minus right left)

/-- What was read of a bracket expression. -/
structure ClassState where
  /-- The union of the items since the last operator. -/
  members : CharClass := .none
  /-- The class and the operator before them. -/
  left : Option (CharClass × ClassOperator) := none

/-- Closes what an operator was waiting for. -/
def ClassState.close (fold : Bool) (state : ClassState) : CharClass :=
  match state.left with
  | none => state.members
  | some (left, op) =>
    if fold then op.apply (.folded left) (.folded state.members) else op.apply left state.members

def readNamed (text : List Char) : Option (CharClass × List Char) :=
  let (negated, text) := match text with
    | '^' :: rest => (true, rest)
    | _ => (false, text)
  match text.dropWhile (· ≠ ':') with
  | ':' :: ']' :: rest => do
    let members ← CharClass.named? (text.takeWhile (· ≠ ':'))
    return (if negated then .complement members else members, rest)
  | _ => none

def readMember : List Char → Option (Escape × List Char)
  | [] => none
  | '\\' :: rest => readEscape rest
  | c :: rest => some (.char c, rest)

def Escape.toClass? : Escape → Option CharClass
  | char c => some (.single c)
  | members m => some m
  | anchor _ => none

def readRange (text : List Char) : Option (CharClass × List Char) := do
  let (first, rest) ← readMember text
  match rest with
  | '-' :: ']' :: _ | '-' :: '-' :: _ => return (← first.toClass?, rest)
  | '-' :: rest =>
    let (last, rest) ← readMember rest
    match first, last with
    | .char low, .char high =>
      if low ≤ high then return (.ranges [(low.toNat, high.toNat)], rest) else none
    | _, _ => none
  | _ => return (← first.toClass?, rest)

/-- The hyphens and the closing bracket that count as members at the start of a bracket
expression. -/
def readLeading (state : ClassState) : List Char → ClassState × List Char
  | '-' :: rest => readLeading { state with members := .union state.members (.single '-') } rest
  | text => (state, text)

/-- What a bracket expression starts with: whether it is negated, and its leading members. -/
def readOpening (text : List Char) : Bool × ClassState × List Char :=
  let (negated, text) := match text with
    | '^' :: rest => (true, rest)
    | _ => (false, text)
  match text with
  | ']' :: rest => (negated, { members := .single ']' }, rest)
  | _ => let (state, rest) := readLeading {} text; (negated, state, rest)

/-- Reads a bracket expression after its opening; `depth` bounds how many brackets and members
are read. -/
def readClassRest (fold : Bool) : Nat → Bool → ClassState → List Char →
    Option (CharClass × List Char)
  | 0, _, _, _ => none
  | depth + 1, negated, state, text =>
    let add (members : CharClass) (rest : List Char) :=
      readClassRest fold depth negated { state with members := .union state.members members } rest
    let operate (op : ClassOperator) (rest : List Char) :=
      readClassRest fold depth negated { left := some (state.close fold, op) } rest
    match text with
    | [] => none
    | ']' :: rest =>
      let members := if fold then .folded (state.close fold) else state.close fold
      some (if negated then .complement members else members, rest)
    | '[' :: rest =>
      match (match rest with | ':' :: named => readNamed named | _ => none) with
      | some (members, rest) => add members rest
      | none =>
        let (inner, innerState, innerText) := readOpening rest
        match readClassRest fold depth inner innerState innerText with
        | some (members, rest) => add members rest
        | none => none
    | '&' :: '&' :: rest => operate .inter rest
    | '-' :: '-' :: rest => operate .minus rest
    | '~' :: '~' :: rest => operate .symmetric rest
    | _ =>
      match readRange text with
      | some (members, rest) => add members rest
      | none => none

def readClass (fold : Bool) (text : List Char) : Option (CharClass × List Char) :=
  let (negated, state, rest) := readOpening text
  readClassRest fold (text.length + 1) negated state rest

/-! ## Repetitions -/

def readCount (text : List Char) : Option Nat × List Char :=
  let text := Text.trimStart text
  let digits := text.takeWhile Char.isDigit
  (if digits.isEmpty then none else (String.ofList digits).toNat?,
    Text.trimStart (text.dropWhile Char.isDigit))

def readBounds (text : List Char) : Option ((Nat × Option Nat) × List Char) := do
  let (least?, rest) := readCount text
  let least ← least?
  let (most, rest) ← match rest with
    | ',' :: rest =>
      match rest.dropWhile Text.isBlank with
      | '\x7d' :: _ => pure (none, rest.dropWhile Text.isBlank)
      | _ => match readCount rest with
        | (some most, rest) => pure (some most, rest)
        | (none, _) => none
    | _ => pure (some least, rest)
  match rest with
  | '\x7d' :: rest =>
    if least < Nat.pow 2 32 && most.all fun most => most < Nat.pow 2 32 && least ≤ most then
      some ((least, most), rest)
    else none
  | _ => none

def dropLazy : List Char → List Char
  | '?' :: rest => rest
  | text => text

/-! ## Groups -/

/-- The flags that govern how the rest of a group is read. -/
structure Flags where
  /-- Letters stand for all their cases. -/
  fold : Bool := false
  /-- The anchors hold at line feeds. -/
  multiLine : Bool := false
  /-- The dot stands for the line feed too. -/
  dotAll : Bool := false

/-- Reads flags up to the colon or bracket that ends them, which is left in place.  No flag may
stand twice, and at least one must follow a minus sign. -/
def readFlags (seen : List Char) (on : Bool) (flags : Flags) : List Char →
    Option (Flags × List Char)
  | [] => none
  | c :: rest =>
    if c = ':' || c = ')' then if seen.head? = some '-' then none else some (flags, c :: rest)
    else if seen.contains c then none
    else match c with
      | '-' => readFlags (c :: seen) false flags rest
      | 'i' => readFlags (c :: seen) on { flags with fold := on } rest
      | 'm' => readFlags (c :: seen) on { flags with multiLine := on } rest
      | 's' => readFlags (c :: seen) on { flags with dotAll := on } rest
      | 'U' => readFlags (c :: seen) on flags rest
      | _ => none

structure Part where
  pattern : Pattern
  /-- How deep it nests. -/
  depth : Nat := 0
  /-- Whether a repetition may follow it. -/
  repeatable : Bool := true

/-- The parts of a sequence, the last one first, as one part. -/
def sequence : List Part → Part
  | [] => { pattern := empty }
  | [part] => part
  | last :: before =>
    before.foldl (fun done part =>
      { pattern := seq part.pattern done.pattern, depth := max done.depth (part.depth + 1) })
      { last with depth := last.depth + 1 }

/-- Alternatives, the last one first, as one part. -/
def alternatives : List Part → Part
  | [] => { pattern := empty }
  | [part] => part
  | last :: before =>
    before.foldl (fun done part =>
      { pattern := alt part.pattern done.pattern, depth := max done.depth (part.depth + 1) })
      { last with depth := last.depth + 1 }

structure OpenGroup where
  flags : Flags
  parts : List Part
  branches : List Part

structure State where
  flags : Flags := {}
  /-- The parts of the present alternative, the last one first. -/
  parts : List Part := []
  /-- The alternatives before it, the last one first. -/
  branches : List Part := []
  /-- The open groups, the innermost first. -/
  groups : List OpenGroup := []
  /-- The names of captures. -/
  names : List (List Char) := []

namespace State

def push (state : State) (pattern : Pattern) : State :=
  { state with parts := { pattern } :: state.parts }

/-- Adds a character or a class, with all cases if the flags say so. -/
def pushClass (state : State) (members : CharClass) : State :=
  state.push (one (if state.flags.fold then .folded members else members))

def repeated (state : State) (least : Nat) (most : Option Nat) : Option State :=
  match state.parts with
  | part :: before =>
    if part.repeatable then
      some { state with
        parts := { pattern := rep part.pattern least most, depth := part.depth + 1 } :: before }
    else none
  | [] => none

def openGroup (state : State) (flags : Flags) : State :=
  { state with
    flags, parts := [], branches := []
    groups := ⟨state.flags, state.parts, state.branches⟩ :: state.groups }

def body (state : State) : Part := alternatives (sequence state.parts :: state.branches)

def closeGroup (state : State) : Option State :=
  match state.groups with
  | [] => none
  | group :: groups =>
    let inner := state.body
    some { state with
      flags := group.flags
      parts := { pattern := inner.pattern, depth := inner.depth + 1 } :: group.parts
      branches := group.branches
      groups }

def nextBranch (state : State) : State :=
  { state with parts := [], branches := sequence state.parts :: state.branches }

end State

def isNameChar (c : Char) : Bool :=
  c == '_' || c == '.' || c == '[' || c == ']' || Text.isWordChar c

def readName (text : List Char) : Option (List Char × List Char) :=
  let name := text.takeWhile (· ≠ '>')
  match name, text.dropWhile (· ≠ '>') with
  | first :: rest, _ :: after =>
    if (first = '_' || (Text.isWordChar first && !Text.isDecimalDigit first)) &&
      rest.all isNameChar then some (name, after) else none
  | _, _ => none

def readGroup (state : State) (text : List Char) : Option (State × List Char) :=
  let capture (named : List Char) := do
    let (name, rest) ← readName named
    if state.names.contains name then none
    return ({ state.openGroup state.flags with names := name :: state.names }, rest)
  match text with
  | '?' :: '=' :: _ | '?' :: '!' :: _ | '?' :: '<' :: '=' :: _ | '?' :: '<' :: '!' :: _ => none
  | '?' :: 'P' :: '<' :: rest => capture rest
  | '?' :: '<' :: rest => capture rest
  | '?' :: rest =>
    match readFlags [] true state.flags rest with
    | some (flags, ':' :: after) => some (state.openGroup flags, after)
    | some (flags, ')' :: after) =>
      if rest.head? = some ')' then none
      else some ({ state with
        flags, parts := { pattern := empty, repeatable := false } :: state.parts }, after)
    | _ => none
  | _ => some (state.openGroup state.flags, text)

def Flags.dot (flags : Flags) : CharClass :=
  if flags.dotAll then .any else .complement (.single '\n')

def readElement (state : State) (c : Char) (rest : List Char) : Option (State × List Char) :=
  match c with
  | '(' => readGroup state rest
  | ')' => state.closeGroup.map (·, rest)
  | '|' => some (state.nextBranch, rest)
  | '[' => (readClass state.flags.fold rest).map fun (members, rest) =>
    (state.push (one members), rest)
  | '?' => (state.repeated 0 (some 1)).map (·, dropLazy rest)
  | '*' => (state.repeated 0 none).map (·, dropLazy rest)
  | '+' => (state.repeated 1 none).map (·, dropLazy rest)
  | '\x7b' => do
    let ((least, most), rest) ← readBounds rest
    return (← state.repeated least most, dropLazy rest)
  | '.' => some (state.push (one state.flags.dot), rest)
  | '^' =>
    some (state.push (anchor (if state.flags.multiLine then .lineStart else .textStart)), rest)
  | '$' => some (state.push (anchor (if state.flags.multiLine then .lineEnd else .textEnd)), rest)
  | '\\' => (readEscape rest).map fun
    | (.char c, rest) => (state.pushClass (.single c), rest)
    | (.members members, rest) => (state.push (one members), rest)
    | (.anchor condition, rest) => (state.push (anchor condition), rest)
  | _ => some (state.pushClass (.single c), rest)

/-- Reads elements to the end of the text; `count` bounds how many. -/
def readElements : Nat → State → List Char → Option State
  | _, state, [] => some state
  | 0, _, _ => none
  | count + 1, state, c :: rest =>
    match readElement state c rest with
    | some (state, rest) => readElements count state rest
    | none => none

def depthLimit : Nat := 250

/-- Reads a pattern, and refuses one that is ill formed, too deep or too heavy. -/
def ofChars? (text : List Char) : Option Pattern := do
  let state ← readElements text.length {} text
  if !state.groups.isEmpty then none
  let body := state.body
  if body.depth > depthLimit then none
  if body.pattern.weight > weightLimit then none
  return body.pattern

def ofString? (text : String) : Option Pattern := ofChars? text.toList

end SealedEnv.Pattern
