import SealedEnv.FlatJson
import SealedEnv.Proofs.EnvMap

/-!
Contract: which byte strings are JSON objects of strings, and which map each of them stands for.

Owns:
- the grammar: how a character may be spelled in a string, how tokens are written with blanks
  between them, and which tokens make up an object;
- `decode?_eq_some_iff`, by which reading follows the grammar in both directions.

Does not own: the one form in which a map is written.
-/

namespace SealedEnv.FlatJson

/-! ## The grammar -/

/-- The characters that may stand between tokens. -/
def blanks : List Char := [' ', '\t', '\n', '\r']

/-- The characters that are tokens by themselves. -/
def marks : List (Char × Token) :=
  [('\x7b', .opening), ('\x7d', .closing), (':', .colon), (',', .comma)]

/-- The letters that stand for a character behind a backslash. -/
def shortEscapes : List (Char × Char) :=
  [('"', '"'), ('\\', '\\'), ('/', '/'), ('b', '\x08'), ('f', '\x0c'), ('n', '\n'), ('r', '\r'),
    ('t', '\t')]

/-- The number that hexadecimal digits go on from `value` to. -/
def hexNumber? (value : Nat) : List Char → Option Nat
  | [] => some value
  | c :: rest => (hexValue? c).bind fun digit => hexNumber? (value * 16 + digit) rest

/-- Holds of the four digits of a code unit. -/
def IsUnit (digits : List Char) (value : Nat) : Prop :=
  digits.length = 4 ∧ hexNumber? 0 digits = some value

def IsLead (value : Nat) : Prop := 0xd800 ≤ value ∧ value < 0xdc00

def IsTrail (value : Nat) : Prop := 0xdc00 ≤ value ∧ value < 0xe000

/-- The character of two code units. -/
def paired (lead trail : Nat) : Char :=
  Char.ofNat (0x10000 + (lead - 0xd800) * 0x400 + (trail - 0xdc00))

/-- The ways to spell a character in a string. -/
inductive Spells : List Char → Char → Prop
  | plain {c : Char} (notQuote : c ≠ '"') (notSlash : c ≠ '\\') (visible : 32 ≤ c.toNat) :
    Spells [c] c
  | short {letter c : Char} (named : (letter, c) ∈ shortEscapes) : Spells ['\\', letter] c
  | unit {digits : List Char} {value : Nat} (isUnit : IsUnit digits value)
    (notLead : ¬IsLead value) (notTrail : ¬IsTrail value) :
    Spells ('\\' :: 'u' :: digits) (Char.ofNat value)
  | pair {high low : List Char} {lead trail : Nat} (leadUnit : IsUnit high lead)
    (isLead : IsLead lead) (trailUnit : IsUnit low trail) (isTrail : IsTrail trail) :
    Spells ('\\' :: 'u' :: (high ++ '\\' :: 'u' :: low)) (paired lead trail)

/-- The ways to spell characters one after the other. -/
inductive SpellsAll : List Char → List Char → Prop
  | nil : SpellsAll [] []
  | cons {spelling more chars : List Char} {c : Char} (first : Spells spelling c)
    (others : SpellsAll more chars) : SpellsAll (spelling ++ more) (c :: chars)

/-- The ways to write tokens one after the other, with blanks between them. -/
inductive Lexes : List Char → List Token → Prop
  | nil : Lexes [] []
  | blank {c : Char} {rest : List Char} {tokens : List Token} (isBlank : c ∈ blanks)
    (others : Lexes rest tokens) : Lexes (c :: rest) tokens
  | mark {c : Char} {token : Token} {rest : List Char} {tokens : List Token}
    (isMark : (c, token) ∈ marks) (others : Lexes rest tokens) : Lexes (c :: rest) (token :: tokens)
  | text {body chars rest : List Char} {tokens : List Token} (spelled : SpellsAll body chars)
    (others : Lexes rest tokens) :
    Lexes ('"' :: (body ++ '"' :: rest)) (.text (String.ofList chars) :: tokens)

def memberTokens (pair : String × String) : List Token := [.text pair.1, .colon, .text pair.2]

/-- The tokens of an object with the given members. -/
def objectTokens (pairs : List (String × String)) : List Token :=
  .opening :: ([.comma].intercalate (pairs.map memberTokens) ++ [.closing])

/-- Holds of a text that is one object with the given members. -/
def IsObject (text : List Char) (pairs : List (String × String)) : Prop :=
  Lexes text (objectTokens pairs)

/-! ## What is written by the grammar is read -/

/-- Where reading goes on after characters, and the tokens so far with the last one first. -/
def run (state : Mode × List Token) (text : List Char) : Option (Mode × List Token) :=
  text.foldlM step state

@[simp] theorem run_nil (state : Mode × List Token) : run state [] = some state := rfl

theorem run_cons_eq (state : Mode × List Token) (c : Char) (rest : List Char) :
    run state (c :: rest) = (step state c).bind fun next => run next rest := rfl

theorem run_cons
    {state next : Mode × List Token}
    {c : Char}
    {rest : List Char}
    (stepped : step state c = some next) :
    run state (c :: rest) = run next rest := by
  rw [run_cons_eq, stepped, Option.bind_some]

theorem run_append
    {state next : Mode × List Token}
    {front back : List Char}
    (reached : run state front = some next) :
    run state (front ++ back) = run next back := by
  unfold run at reached ⊢
  rw [List.foldlM_append, reached]
  rfl

theorem step_digits
    {read : List Char}
    {lead : Option Nat}
    {missing value digit : Nat}
    {c : Char}
    {tokens : List Token}
    (isDigit : hexValue? c = some digit) :
    step (.digits read lead missing value, tokens) c =
      if missing ≤ 1 then (afterUnit read lead (value * 16 + digit)).map (·, tokens)
      else some (.digits read lead (missing - 1) (value * 16 + digit), tokens) := by
  simp [step, isDigit]

theorem run_hexDigits
    {read : List Char}
    {lead : Option Nat}
    {missing value number : Nat}
    {digits : List Char}
    {tokens : List Token}
    (count : digits.length = missing)
    (positive : 0 < missing)
    (isNumber : hexNumber? value digits = some number) :
    run (.digits read lead missing value, tokens) digits =
      (afterUnit read lead number).map (·, tokens) := by
  induction digits generalizing missing value with
  | nil =>
      rw [← count] at positive
      exact absurd positive (Nat.lt_irrefl 0)
  | cons c rest inductionHypothesis =>
      obtain ⟨digit, isDigit, restNumber⟩ := Option.bind_eq_some_iff.mp isNumber
      rw [List.length_cons] at count
      rw [run_cons_eq, step_digits isDigit]
      by_cases last : missing ≤ 1
      · obtain rfl : rest = [] := List.eq_nil_of_length_eq_zero (by omega)
        obtain rfl : value * 16 + digit = number := Option.some.inj restNumber
        rw [if_pos last]
        cases afterUnit read lead (value * 16 + digit) <;> rfl
      · rw [if_neg last]
        exact inductionHypothesis (by omega) (by omega) restNumber

theorem run_unit
    {read digits : List Char}
    {lead : Option Nat}
    {value : Nat}
    {tokens : List Token}
    (isUnit : IsUnit digits value) :
    run (.digits read lead 4 0, tokens) digits = (afterUnit read lead value).map (·, tokens) :=
  run_hexDigits isUnit.1 (by omega) isUnit.2

theorem afterUnit_single
    {read : List Char}
    {value : Nat}
    (notLead : ¬IsLead value)
    (notTrail : ¬IsTrail value) :
    afterUnit read none value = some (.inside (Char.ofNat value :: read)) := by
  unfold IsLead at notLead
  unfold IsTrail at notTrail
  simp [afterUnit, notLead, notTrail]

theorem afterUnit_lead
    {read : List Char}
    {value : Nat}
    (isLead : IsLead value) :
    afterUnit read none value = some (.pairEscape read value) := by
  obtain ⟨atLeast, below⟩ := isLead
  simp [afterUnit, atLeast, below]

theorem afterUnit_trail
    {read : List Char}
    {lead value : Nat}
    (isTrail : IsTrail value) :
    afterUnit read (some lead) value = some (.inside (paired lead value :: read)) := by
  obtain ⟨atLeast, below⟩ := isTrail
  simp [afterUnit, atLeast, below, paired]

/-- A code unit of its own is a character, or it is the first half of a pair, or it is refused. -/
theorem afterUnit_none_cases (read : List Char) (value : Nat) :
    IsLead value ∧ afterUnit read none value = some (.pairEscape read value) ∨
      ¬IsLead value ∧ ¬IsTrail value ∧
        afterUnit read none value = some (.inside (Char.ofNat value :: read)) ∨
      afterUnit read none value = none := by
  by_cases isLead : IsLead value
  · exact .inl ⟨isLead, afterUnit_lead isLead⟩
  · by_cases isTrail : IsTrail value
    · unfold IsLead at isLead
      obtain ⟨atLeast, below⟩ := isTrail
      exact .inr (.inr (by simp [afterUnit, isLead, atLeast, below]))
    · exact .inr (.inl ⟨isLead, isTrail, afterUnit_single isLead isTrail⟩)

theorem afterUnit_some_cases (read : List Char) (lead value : Nat) :
    IsTrail value ∧ afterUnit read (some lead) value = some (.inside (paired lead value :: read)) ∨
      afterUnit read (some lead) value = none := by
  by_cases isTrail : IsTrail value
  · exact .inl ⟨isTrail, afterUnit_trail isTrail⟩
  · unfold IsTrail at isTrail
    exact .inr (by simp [afterUnit, isTrail])

theorem afterEscape_of_mem
    {read : List Char}
    {letter c : Char}
    (named : (letter, c) ∈ shortEscapes) :
    afterEscape read letter = some (.inside (c :: read)) := by
  simp only [shortEscapes, List.mem_cons, List.not_mem_nil, or_false, Prod.mk.injEq] at named
  rcases named with ⟨rfl, rfl⟩ | ⟨rfl, rfl⟩ | ⟨rfl, rfl⟩ | ⟨rfl, rfl⟩ | ⟨rfl, rfl⟩ | ⟨rfl, rfl⟩ |
    ⟨rfl, rfl⟩ | ⟨rfl, rfl⟩ <;> rfl

/-- A spelling adds its character to what was read of a string. -/
theorem run_spelling
    {spelling read : List Char}
    {c : Char}
    {tokens : List Token}
    (spells : Spells spelling c) :
    run (.inside read, tokens) spelling = some (.inside (c :: read), tokens) := by
  have escaped : step (.inside read, tokens) '\\' = some (.escape read, tokens) := rfl
  have begun : step (.escape read, tokens) 'u' = some (.digits read none 4 0, tokens) := rfl
  cases spells with
  | plain notQuote notSlash visible =>
      have stepped : step (.inside read, tokens) c = some (.inside (c :: read), tokens) := by
        simp [step, notQuote, notSlash, Nat.not_lt.mpr visible]
      rw [run_cons stepped, run_nil]
  | @short letter _ named =>
      have stepped : step (.escape read, tokens) letter = some (.inside (c :: read), tokens) := by
        simp [step, afterEscape_of_mem named]
      rw [run_cons escaped, run_cons stepped, run_nil]
  | unit isUnit notLead notTrail =>
      rw [run_cons escaped, run_cons begun, run_unit isUnit, afterUnit_single notLead notTrail]
      rfl
  | @pair high low lead trail leadUnit isLead trailUnit isTrail =>
      have led : run (.digits read none 4 0, tokens) high =
          some (.pairEscape read lead, tokens) := by
        rw [run_unit leadUnit, afterUnit_lead isLead]
        rfl
      have reescaped : step (.pairEscape read lead, tokens) '\\' =
          some (.pairLetter read lead, tokens) := rfl
      have rebegun : step (.pairLetter read lead, tokens) 'u' =
          some (.digits read (some lead) 4 0, tokens) := rfl
      rw [run_cons escaped, run_cons begun, run_append led, run_cons reescaped, run_cons rebegun,
        run_unit trailUnit, afterUnit_trail isTrail]
      rfl

theorem run_spellings
    {body chars read : List Char}
    {tokens : List Token}
    (spelled : SpellsAll body chars) :
    run (.inside read, tokens) body = some (.inside (chars.reverse ++ read), tokens) := by
  induction spelled generalizing read with
  | nil => rfl
  | cons first _ inductionHypothesis =>
      rw [run_append (run_spelling first), inductionHypothesis]
      simp

/-- Tokens that are written one after the other are added to those that were read. -/
theorem run_lexed
    {text : List Char}
    {tokens done : List Token}
    (lexed : Lexes text tokens) :
    run (.outside, done) text = some (.outside, tokens.reverse ++ done) := by
  induction lexed generalizing done with
  | nil => rfl
  | @blank c rest tokens isBlank _ inductionHypothesis =>
      have stepped : step (.outside, done) c = some (.outside, done) := by
        simp only [blanks, List.mem_cons, List.not_mem_nil, or_false] at isBlank
        rcases isBlank with rfl | rfl | rfl | rfl <;> rfl
      rw [run_cons stepped, inductionHypothesis]
  | @mark c token rest tokens isMark _ inductionHypothesis =>
      have stepped : step (.outside, done) c = some (.outside, token :: done) := by
        simp only [marks, List.mem_cons, List.not_mem_nil, or_false, Prod.mk.injEq] at isMark
        rcases isMark with ⟨rfl, rfl⟩ | ⟨rfl, rfl⟩ | ⟨rfl, rfl⟩ | ⟨rfl, rfl⟩ <;> rfl
      rw [run_cons stepped, inductionHypothesis]
      simp
  | @text body chars rest tokens spelled _ inductionHypothesis =>
      have opened : step (.outside, done) '"' = some (.inside [], done) := rfl
      have closed : step (.inside (chars.reverse ++ []), done) '"' =
          some (.outside, .text (String.ofList chars) :: done) := by
        simp [step]
      rw [run_cons opened, run_append (run_spellings spelled), run_cons closed,
        inductionHypothesis]
      simp

/-! ## What is read is written by the grammar -/

/-- The characters that were read of a string so far, the last one first. -/
def Mode.read : Mode → List Char
  | .outside => []
  | .inside read => read
  | .escape read => read
  | .digits read _ _ _ => read
  | .pairEscape read _ => read
  | .pairLetter read _ => read

/-- Holds of the digits that are missing to a number; there is always one more to come. -/
def MissingDigits (missing value : Nat) (digits : List Char) (number : Nat) : Prop :=
  digits.length = max missing 1 ∧ hexNumber? value digits = some number

/-- Holds of what is missing to the spelling of a character that was begun. -/
def Completes : Mode → List Char → Char → Prop
  | .escape _, tail, c => Spells ('\\' :: tail) c
  | .digits _ none missing value, tail, c => ∃ digits number,
    MissingDigits missing value digits number ∧
      (¬IsLead number ∧ ¬IsTrail number ∧ tail = digits ∧ c = Char.ofNat number ∨
        IsLead number ∧ ∃ low trail, IsUnit low trail ∧ IsTrail trail ∧
          tail = digits ++ '\\' :: 'u' :: low ∧ c = paired number trail)
  | .digits _ (some lead) missing value, tail, c => ∃ trail,
    MissingDigits missing value tail trail ∧ IsTrail trail ∧ c = paired lead trail
  | .pairEscape _ lead, tail, c => ∃ low trail, IsUnit low trail ∧ IsTrail trail ∧
    tail = '\\' :: 'u' :: low ∧ c = paired lead trail
  | .pairLetter _ lead, tail, c => ∃ low trail, IsUnit low trail ∧ IsTrail trail ∧
    tail = 'u' :: low ∧ c = paired lead trail
  | .outside, _, _ => False
  | .inside _, _, _ => False

/-- Holds of a text that ends a string of which the given characters were read, last one first,
and goes on with the other tokens. -/
def ClosesText (read text : List Char) (tokens : List Token) : Prop :=
  ∃ body chars rest others, text = body ++ '"' :: rest ∧ SpellsAll body chars ∧
    Lexes rest others ∧ tokens = .text (String.ofList (read.reverse ++ chars)) :: others

/-- Holds of a text that completes a character of a string and then ends the string. -/
def FinishesChar (mode : Mode) (text : List Char) (tokens : List Token) : Prop :=
  ∃ tail c rest, text = tail ++ rest ∧ Completes mode tail c ∧
    ClosesText (c :: mode.read) rest tokens

/-- Holds of a text that completes what was begun and goes on with the other tokens. -/
def Finishes : Mode → List Char → List Token → Prop
  | .outside => Lexes
  | .inside read => ClosesText read
  | mode => FinishesChar mode

theorem ClosesText.prepend
    {spelling read rest : List Char}
    {c : Char}
    {tokens : List Token}
    (spells : Spells spelling c)
    (closes : ClosesText (c :: read) rest tokens) :
    ClosesText read (spelling ++ rest) tokens := by
  obtain ⟨body, chars, after, others, rfl, spelled, lexed, rfl⟩ := closes
  refine ⟨spelling ++ body, c :: chars, after, others, ?_, .cons spells spelled, lexed, ?_⟩
  · rw [List.append_assoc]
  · rw [List.reverse_cons, List.append_assoc]
    rfl

theorem FinishesChar.last
    (mode : Mode)
    {rest : List Char}
    {c d : Char}
    {tokens : List Token}
    (completes : Completes mode [c] d)
    (closes : ClosesText (d :: mode.read) rest tokens) :
    FinishesChar mode (c :: rest) tokens :=
  ⟨[c], d, rest, rfl, completes, closes⟩

theorem FinishesChar.prepend
    (mode next : Mode)
    {rest : List Char}
    {c : Char}
    {tokens : List Token}
    (goesOn : ∀ tail d, Completes next tail d → Completes mode (c :: tail) d)
    (sameRead : next.read = mode.read)
    (finishes : FinishesChar next rest tokens) :
    FinishesChar mode (c :: rest) tokens := by
  obtain ⟨tail, d, after, rfl, completes, closes⟩ := finishes
  rw [sameRead] at closes
  exact ⟨c :: tail, d, after, rfl, goesOn tail d completes, closes⟩

/-- Holds if whatever finishes the next mode finishes the present one behind `c`, and the tokens in
between are those that were added. -/
def Follows (mode : Mode) (done : List Token) (c : Char) (next : Mode) (more : List Token) : Prop :=
  ∃ new : List Token, more = new.reverse ++ done ∧
    ∀ rest tokens, Finishes next rest tokens → Finishes mode (c :: rest) (new ++ tokens)

theorem follows_outside
    {done more : List Token}
    {c : Char}
    {next : Mode}
    (stepped : step (.outside, done) c = some (next, more)) :
    Follows .outside done c next more := by
  have blank : ∀ {d : Char}, d ∈ blanks → Follows .outside done d .outside done := by
    intro d isBlank
    exact ⟨[], rfl, fun _ _ lexed => Lexes.blank isBlank lexed⟩
  have mark : ∀ {d : Char} {token : Token}, (d, token) ∈ marks →
      Follows .outside done d .outside (token :: done) := by
    intro d token isMark
    exact ⟨[token], rfl, fun _ _ lexed => Lexes.mark isMark lexed⟩
  unfold step at stepped
  simp only [] at stepped
  split at stepped <;> cases stepped
  case h_1 => exact blank (by decide)
  case h_2 => exact blank (by decide)
  case h_3 => exact blank (by decide)
  case h_4 => exact blank (by decide)
  case h_5 => exact mark (by decide)
  case h_6 => exact mark (by decide)
  case h_7 => exact mark (by decide)
  case h_8 => exact mark (by decide)
  case h_9 =>
    refine ⟨[], rfl, ?_⟩
    rintro _ _ ⟨body, chars, rest, others, rfl, spelled, lexed, rfl⟩
    exact Lexes.text spelled lexed

theorem follows_inside
    {read : List Char}
    {done more : List Token}
    {c : Char}
    {next : Mode}
    (stepped : step (.inside read, done) c = some (next, more)) :
    Follows (.inside read) done c next more := by
  unfold step at stepped
  simp only [] at stepped
  split at stepped
  case isTrue isQuote =>
    cases stepped
    refine ⟨[.text (String.ofList read.reverse)], rfl, ?_⟩
    intro rest tokens lexed
    refine ⟨[], [], rest, tokens, ?_, .nil, lexed, ?_⟩
    · rw [isQuote]
      rfl
    · rw [List.append_nil]
      rfl
  case isFalse notQuote =>
    split at stepped
    case isTrue isSlash =>
      cases stepped
      refine ⟨[], rfl, ?_⟩
      rintro _ tokens ⟨tail, d, rest, rfl, spells, closes⟩
      rw [isSlash]
      exact ClosesText.prepend spells closes
    case isFalse notSlash =>
      split at stepped
      case isTrue => contradiction
      case isFalse visible =>
        cases stepped
        refine ⟨[], rfl, ?_⟩
        intro rest tokens closes
        exact ClosesText.prepend (.plain notQuote notSlash (Nat.not_lt.mp visible)) closes

/-- After a character of a spelling the tokens are as before. -/
theorem follows_of_finishes
    {mode next : Mode}
    {done : List Token}
    {c : Char}
    (finishes : ∀ rest tokens, Finishes next rest tokens → Finishes mode (c :: rest) tokens) :
    Follows mode done c next done :=
  ⟨[], rfl, finishes⟩

theorem follows_escape
    {read : List Char}
    {done more : List Token}
    {c : Char}
    {next : Mode}
    (stepped : step (.escape read, done) c = some (next, more)) :
    Follows (.escape read) done c next more := by
  have short : ∀ {letter d : Char}, (letter, d) ∈ shortEscapes →
      Follows (.escape read) done letter (.inside (d :: read)) done := by
    intro letter d named
    exact follows_of_finishes fun _ _ => FinishesChar.last (.escape read) (Spells.short named)
  unfold step afterEscape at stepped
  simp only [] at stepped
  split at stepped <;> cases stepped
  case h_1 => exact short (by decide)
  case h_2 => exact short (by decide)
  case h_3 => exact short (by decide)
  case h_4 => exact short (by decide)
  case h_5 => exact short (by decide)
  case h_6 => exact short (by decide)
  case h_7 => exact short (by decide)
  case h_8 => exact short (by decide)
  case h_9 =>
    refine follows_of_finishes fun _ _ =>
      FinishesChar.prepend (.escape read) (.digits read none 4 0) ?_ rfl
    rintro tail d ⟨digits, number, isUnit, ⟨notLead, notTrail, rfl, isChar⟩ |
      ⟨isLead, low, trail, trailUnit, isTrail, rfl, isChar⟩⟩
    · rw [isChar]
      exact Spells.unit isUnit notLead notTrail
    · rw [isChar]
      exact Spells.pair isUnit isLead trailUnit isTrail

/-- One digit more is read, and one less is missing. -/
theorem MissingDigits.prepend
    {missing value digit number : Nat}
    {c : Char}
    {digits : List Char}
    (isDigit : hexValue? c = some digit)
    (more : ¬missing ≤ 1)
    (others : MissingDigits (missing - 1) (value * 16 + digit) digits number) :
    MissingDigits missing value (c :: digits) number := by
  obtain ⟨count, isNumber⟩ := others
  constructor
  · rw [List.length_cons]
    omega
  · rw [hexNumber?, isDigit]
    exact isNumber

theorem missingDigits_last
    {missing value digit : Nat}
    {c : Char}
    (isDigit : hexValue? c = some digit)
    (last : missing ≤ 1) :
    MissingDigits missing value [c] (value * 16 + digit) := by
  constructor
  · show 1 = max missing 1
    omega
  · rw [hexNumber?, isDigit]
    rfl

/-- A digit after which others are missing. -/
theorem follows_moreDigits
    {read : List Char}
    (lead : Option Nat)
    {missing value digit : Nat}
    {done : List Token}
    {c : Char}
    (isDigit : hexValue? c = some digit)
    (several : ¬missing ≤ 1) :
    Follows (.digits read lead missing value) done c
      (.digits read lead (missing - 1) (value * 16 + digit)) done := by
  refine follows_of_finishes fun _ _ => FinishesChar.prepend (.digits read lead missing value)
    (.digits read lead (missing - 1) (value * 16 + digit)) ?_ rfl
  cases lead with
  | none =>
      rintro tail d ⟨digits, number, others, ⟨notLead, notTrail, rfl, isChar⟩ |
        ⟨isLead, low, trail, trailUnit, isTrail, rfl, isChar⟩⟩
      · exact ⟨_, number, others.prepend isDigit several, .inl ⟨notLead, notTrail, rfl, isChar⟩⟩
      · exact ⟨_, number, others.prepend isDigit several,
          .inr ⟨isLead, low, trail, trailUnit, isTrail, rfl, isChar⟩⟩
  | some lead =>
      rintro tail d ⟨trail, others, isTrail, isChar⟩
      exact ⟨trail, others.prepend isDigit several, isTrail, isChar⟩

/-- The last digit of a code unit. -/
theorem follows_lastDigit
    {read : List Char}
    (lead : Option Nat)
    {missing value digit : Nat}
    {done : List Token}
    {c : Char}
    {next : Mode}
    (isDigit : hexValue? c = some digit)
    (last : missing ≤ 1)
    (after : afterUnit read lead (value * 16 + digit) = some next) :
    Follows (.digits read lead missing value) done c next done := by
  have digits : MissingDigits missing value [c] (value * 16 + digit) :=
    missingDigits_last isDigit last
  cases lead with
  | none =>
      rcases afterUnit_none_cases read (value * 16 + digit) with
        ⟨isLead, leads⟩ | ⟨notLead, notTrail, ends⟩ | refused
      · cases leads.symm.trans after
        refine follows_of_finishes fun _ _ => FinishesChar.prepend
          (.digits read none missing value) (.pairEscape read (value * 16 + digit)) ?_ rfl
        rintro tail d ⟨low, trail, trailUnit, isTrail, rfl, isChar⟩
        exact ⟨[c], _, digits, .inr ⟨isLead, low, trail, trailUnit, isTrail, rfl, isChar⟩⟩
      · cases ends.symm.trans after
        exact follows_of_finishes fun _ _ => FinishesChar.last
          (.digits read none missing value) ⟨[c], _, digits, .inl ⟨notLead, notTrail, rfl, rfl⟩⟩
      · cases refused.symm.trans after
  | some lead =>
      rcases afterUnit_some_cases read lead (value * 16 + digit) with ⟨isTrail, ends⟩ | refused
      · cases ends.symm.trans after
        exact follows_of_finishes fun _ _ => FinishesChar.last
          (.digits read (some lead) missing value) ⟨_, digits, isTrail, rfl⟩
      · cases refused.symm.trans after

theorem follows_digits
    {read : List Char}
    {lead : Option Nat}
    {missing value : Nat}
    {done more : List Token}
    {c : Char}
    {next : Mode}
    (stepped : step (.digits read lead missing value, done) c = some (next, more)) :
    Follows (.digits read lead missing value) done c next more := by
  cases isDigit : hexValue? c with
  | none => simp [step, isDigit] at stepped
  | some digit =>
      rw [step_digits isDigit] at stepped
      split at stepped
      case isTrue last =>
        obtain ⟨mode, after, same⟩ := Option.map_eq_some_iff.mp stepped
        cases same
        exact follows_lastDigit lead isDigit last after
      case isFalse several =>
        cases stepped
        exact follows_moreDigits lead isDigit several

theorem follows_pairEscape
    {read : List Char}
    {lead : Nat}
    {done more : List Token}
    {c : Char}
    {next : Mode}
    (stepped : step (.pairEscape read lead, done) c = some (next, more)) :
    Follows (.pairEscape read lead) done c next more := by
  unfold step at stepped
  simp only [] at stepped
  split at stepped
  case isFalse => contradiction
  case isTrue isSlash =>
    cases stepped
    refine follows_of_finishes fun _ _ => FinishesChar.prepend (.pairEscape read lead)
      (.pairLetter read lead) ?_ rfl
    rintro tail d ⟨low, trail, trailUnit, isTrail, rfl, isChar⟩
    exact ⟨low, trail, trailUnit, isTrail, by rw [isSlash], isChar⟩

theorem follows_pairLetter
    {read : List Char}
    {lead : Nat}
    {done more : List Token}
    {c : Char}
    {next : Mode}
    (stepped : step (.pairLetter read lead, done) c = some (next, more)) :
    Follows (.pairLetter read lead) done c next more := by
  unfold step at stepped
  simp only [] at stepped
  split at stepped
  case isFalse => contradiction
  case isTrue isLetter =>
    cases stepped
    refine follows_of_finishes fun _ _ => FinishesChar.prepend (.pairLetter read lead)
      (.digits read (some lead) 4 0) ?_ rfl
    rintro tail d ⟨trail, trailUnit, isTrail, isChar⟩
    exact ⟨tail, trail, trailUnit, isTrail, by rw [isLetter], isChar⟩

theorem follows_step
    {mode next : Mode}
    {done more : List Token}
    {c : Char}
    (stepped : step (mode, done) c = some (next, more)) :
    Follows mode done c next more := by
  cases mode with
  | outside => exact follows_outside stepped
  | inside read => exact follows_inside stepped
  | escape read => exact follows_escape stepped
  | digits read lead missing value => exact follows_digits stepped
  | pairEscape read lead => exact follows_pairEscape stepped
  | pairLetter read lead => exact follows_pairLetter stepped

/-- A text that leads out of all strings finishes what was begun, and the tokens in between are
those that were added. -/
theorem finishes_of_run
    {mode : Mode}
    {done final : List Token}
    {text : List Char}
    (reached : run (mode, done) text = some (.outside, final)) :
    ∃ tokens, final = tokens.reverse ++ done ∧ Finishes mode text tokens := by
  induction text generalizing mode done with
  | nil =>
      cases reached
      exact ⟨[], rfl, Lexes.nil⟩
  | cons c rest inductionHypothesis =>
      rw [run_cons_eq] at reached
      obtain ⟨⟨next, more⟩, stepped, restReached⟩ := Option.bind_eq_some_iff.mp reached
      obtain ⟨tokens, rfl, finishes⟩ := inductionHypothesis restReached
      obtain ⟨new, rfl, follows⟩ := follows_step stepped
      refine ⟨new ++ tokens, ?_, follows rest tokens finishes⟩
      rw [List.reverse_append, List.append_assoc]

/-- The tokens of a text are those that the grammar gives it. -/
theorem tokens?_eq_some_iff
    {text : List Char}
    {tokens : List Token} :
    tokens? text = some tokens ↔ Lexes text tokens := by
  constructor
  · intro isRead
    unfold tokens? at isRead
    split at isRead
    case h_1 final reached =>
      obtain ⟨written, isFinal, lexed⟩ := finishes_of_run reached
      rw [List.append_nil] at isFinal
      rw [isFinal, List.reverse_reverse, Option.some.injEq] at isRead
      rw [← isRead]
      exact lexed
    case h_2 => contradiction
  · intro lexed
    have reached : run (.outside, []) text = some (.outside, tokens.reverse ++ []) :=
      run_lexed lexed
    unfold run at reached
    unfold tokens?
    rw [reached, List.append_nil]
    simp

/-! ## Objects -/

theorem intercalate_memberTokens
    (pair next : String × String)
    (rest : List (String × String)) :
    [Token.comma].intercalate ((pair :: next :: rest).map memberTokens) =
      memberTokens pair ++
        Token.comma :: [Token.comma].intercalate ((next :: rest).map memberTokens) := by
  simp [List.intercalate]

theorem readMembers_memberTokens
    (map : EnvMap)
    (pair : String × String)
    (rest : List (String × String)) :
    readMembers map ([.comma].intercalate ((pair :: rest).map memberTokens) ++ [.closing]) =
      some (map.insertAll (pair :: rest)) := by
  induction rest generalizing map pair with
  | nil => rfl
  | cons next rest inductionHypothesis =>
      rw [intercalate_memberTokens]
      exact inductionHypothesis (map.insert pair.1 pair.2) next

/-- Members that are read are pairs with commas between them. -/
theorem eq_memberTokens_of_readMembers
    {map result : EnvMap}
    {tokens : List Token}
    (isRead : readMembers map tokens = some result) :
    ∃ pair rest,
      tokens = [.comma].intercalate ((pair :: rest).map memberTokens) ++ [.closing] ∧
        result = map.insertAll (pair :: rest) := by
  fun_induction readMembers map tokens with
  | case1 map name value =>
      cases isRead
      exact ⟨(name, value), [], rfl, rfl⟩
  | case2 map name value rest inductionHypothesis =>
      obtain ⟨pair, others, rfl, rfl⟩ := inductionHypothesis isRead
      refine ⟨(name, value), pair :: others, ?_, rfl⟩
      rw [intercalate_memberTokens]
      rfl
  | case3 => contradiction

/-- The tokens of an object stand for the map of its members, of which the last one of a name
counts. -/
theorem ofTokens?_eq_some_iff
    {tokens : List Token}
    {map : EnvMap} :
    ofTokens? tokens = some map ↔
      ∃ pairs, tokens = objectTokens pairs ∧ map = EnvMap.ofList pairs := by
  constructor
  · intro isRead
    unfold ofTokens? at isRead
    split at isRead
    case h_1 =>
      cases isRead
      exact ⟨[], rfl, rfl⟩
    case h_2 rest _ =>
      obtain ⟨pair, others, rfl, rfl⟩ := eq_memberTokens_of_readMembers isRead
      exact ⟨pair :: others, rfl, rfl⟩
    case h_3 => contradiction
  · rintro ⟨pairs, rfl, rfl⟩
    cases pairs with
    | nil => rfl
    | cons pair rest =>
        have members := readMembers_memberTokens .empty pair rest
        cases rest with
        | nil => exact members
        | cons next more =>
            unfold objectTokens
            rw [intercalate_memberTokens] at members ⊢
            exact members

/-- A byte string is read as a map exactly if it is the text of an object whose members make up the
map. -/
theorem decode?_eq_some_iff
    {bytes : Bytes}
    {map : EnvMap} :
    decode? bytes = some map ↔
      ∃ text pairs, Utf8.encode text = bytes ∧ IsObject text.toList pairs ∧
        map = EnvMap.ofList pairs := by
  unfold decode? decodeText? IsObject
  simp only [Option.bind_eq_some_iff, tokens?_eq_some_iff, ofTokens?_eq_some_iff]
  constructor
  · rintro ⟨text, decoded, tokens, lexed, pairs, rfl, rfl⟩
    exact ⟨text, pairs, Utf8.encode_of_decode? decoded, lexed, rfl⟩
  · rintro ⟨text, pairs, rfl, lexed, rfl⟩
    exact ⟨text, Utf8.decode?_encode text, objectTokens pairs, lexed, pairs, rfl, rfl⟩

end SealedEnv.FlatJson
