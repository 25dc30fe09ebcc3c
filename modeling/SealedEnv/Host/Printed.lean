import SealedEnv.Host.Task

/-!
Contract: texts with escapes and formats with directives.

Owns:
- `Escaped.read`, which replaces escapes, in the two notations for octal codes;
- `Format`, which is filled in with arguments as often as needed to use them all up.

Does not own: where the text goes.
-/

namespace SealedEnv.Host

/-- The digits of a number in a text, to the base eight, at most so many of them. -/
def readOctal : (limit value : Nat) → List Char → Nat × List Char
  | 0, value, rest => (value, rest)
  | _, value, [] => (value, [])
  | limit + 1, value, c :: rest =>
    if '0' ≤ c && c ≤ '7' then readOctal limit (value * 8 + (c.toNat - 48)) rest
    else (value, c :: rest)

def escapeLetter? : Char → Option Char
  | 'a' => some '\x07'
  | 'b' => some '\x08'
  | 'f' => some '\x0c'
  | 'n' => some '\n'
  | 'r' => some '\r'
  | 't' => some '\t'
  | 'v' => some '\x0b'
  | '\\' => some '\\'
  | _ => none

/-- What follows a backslash: the characters it stands for, and the rest.  With `zeroLed`, a zero
comes before the three digits of a code. -/
def readEscape (zeroLed : Bool) : List Char → List Char × List Char
  | [] => (['\\'], [])
  | c :: rest =>
    match escapeLetter? c with
    | some meant => ([meant], rest)
    | none =>
      if '0' ≤ c && c ≤ '7' then
        let (code, rest) := readOctal (if zeroLed && c = '0' then 4 else 3) 0 (c :: rest)
        ([charOfByte (UInt8.ofNat code)], rest)
      else (['\\', c], rest)

structure Escaped where
  text : List Char
  /-- Whether the text tells to stop. -/
  stops : Bool

/-- Replaces escapes in the first so many steps. -/
def Escaped.readWithin : Nat → List Char → Escaped
  | 0, _ => ⟨[], false⟩
  | _, [] => ⟨[], false⟩
  | fuel + 1, c :: rest =>
    if c ≠ '\\' then
      let more := readWithin fuel rest
      ⟨c :: more.text, more.stops⟩
    else if rest.head? = some 'c' then ⟨[], true⟩
    else
      let (meant, rest) := readEscape true rest
      let more := readWithin fuel rest
      ⟨meant ++ more.text, more.stops⟩

def Escaped.read (text : String) : Escaped := readWithin text.length text.toList

structure Directive where
  flags : List Char
  width : Nat
  precision : Option Nat
  kind : Char

inductive Format.Item where
  | literal (text : List Char)
  | directive (directive : Directive)

abbrev Format := List Format.Item

namespace Format

def number (digits : List Char) : Nat := digits.foldl (fun value c => value * 10 + (c.toNat - 48)) 0

def readDirective (text : List Char) : Option (Directive × List Char) :=
  let isFlag := fun c : Char => ['-', '0', '+', ' ', '#'].contains c
  let flags := text.takeWhile isFlag
  let text := text.dropWhile isFlag
  let width := number (text.takeWhile Char.isDigit)
  let text := text.dropWhile Char.isDigit
  match text with
  | [] => none
  | '.' :: text =>
    let precision := number (text.takeWhile Char.isDigit)
    match text.dropWhile Char.isDigit with
    | [] => none
    | kind :: rest => some (⟨flags, width, some precision, kind⟩, rest)
  | kind :: rest => some (⟨flags, width, none, kind⟩, rest)

def readWithin : Nat → List Char → Format
  | 0, _ => []
  | _, [] => []
  | fuel + 1, '\\' :: rest =>
    let (meant, rest) := readEscape false rest
    .literal meant :: readWithin fuel rest
  | fuel + 1, '%' :: '%' :: rest => .literal ['%'] :: readWithin fuel rest
  | fuel + 1, '%' :: rest =>
    match readDirective rest with
    | some (directive, rest) => .directive directive :: readWithin fuel rest
    | none => .literal ('%' :: rest) :: []
  | fuel + 1, c :: rest => .literal [c] :: readWithin fuel rest

def read (text : String) : Format := readWithin text.length text.toList

end Format

def digitValue (c : Char) : Nat :=
  if c.isDigit then c.toNat - 48
  else if 'a' ≤ c && c ≤ 'f' then c.toNat - 87
  else if 'A' ≤ c && c ≤ 'F' then c.toNat - 55
  else 16

/-- The number at the front of a text, in the notations for numbers to the base ten, eight and
sixteen, and whether all of the text belongs to it. -/
def readNumber (text : List Char) : Int × Bool :=
  let text := text.dropWhile fun c => c = ' ' || c = '\t' || c = '\n'
  let negative := text.head? = some '-'
  let digits := if negative || text.head? = some '+' then text.drop 1 else text
  let (base, digits) := match digits with
    | '0' :: 'x' :: rest => (16, rest)
    | '0' :: 'X' :: rest => (16, rest)
    | '0' :: rest => (8, '0' :: rest)
    | digits => (10, digits)
  let spelled := digits.takeWhile fun c => digitValue c < base
  let size := spelled.foldl (fun value c => value * base + digitValue c) 0
  (if negative then -(size : Int) else size, !spelled.isEmpty && spelled.length = digits.length)

/-- What came of filling in a format. -/
structure Printed where
  text : List Char
  /-- The arguments that should have been numbers. -/
  faults : Words
  stops : Bool

namespace Printed

def nothing : Printed := ⟨[], [], false⟩

/-- One text after another, unless the first one tells to stop. -/
def append (first second : Printed) : Printed :=
  if first.stops then first
  else ⟨first.text ++ second.text, first.faults ++ second.faults, second.stops⟩

end Printed

namespace Directive

def padded (directive : Directive) (text : List Char) : List Char :=
  let blanks := List.replicate (directive.width - text.length) ' '
  if directive.flags.contains '-' then text ++ blanks else blanks ++ text

/-- A number with its sign, with zeros up to the precision or, if the flags ask for it, the
width. -/
def paddedNumber (directive : Directive) (sign digits : List Char) : List Char :=
  let zeros := match directive.precision with
    | some precision => precision - digits.length
    | none =>
      if directive.flags.contains '0' && !directive.flags.contains '-' then
        directive.width - digits.length - sign.length
      else 0
  directive.padded (sign ++ List.replicate zeros '0' ++ digits)

def sign (directive : Directive) (number : Int) : List Char :=
  if number < 0 then ['-']
  else if directive.flags.contains '+' then ['+']
  else if directive.flags.contains ' ' then [' ']
  else []

/-- The number that an argument spells: a quote stands before a character that is meant itself. -/
def numberOf (argument : Option String) : Int × Words :=
  match argument with
  | none => (0, [])
  | some text =>
    match text.toList with
    | '\'' :: c :: _ => (c.toNat, [])
    | '"' :: c :: _ => (c.toNat, [])
    | [] => (0, [])
    | chars => ((readNumber chars).1, if (readNumber chars).2 then [] else [text])

def base? : Char → Option Nat
  | 'u' => some 10
  | 'o' => some 8
  | 'x' | 'X' => some 16
  | _ => none

/-- Fills in an argument. -/
def fill (directive : Directive) (argument : Option String) : Printed :=
  let text := argument.getD ""
  let cut := fun chars : List Char => match directive.precision with
    | some precision => chars.take precision
    | none => chars
  match directive.kind with
  | 's' => ⟨directive.padded (cut text.toList), [], false⟩
  | 'c' => ⟨directive.padded (text.toList.take 1), [], false⟩
  | 'b' =>
    let escaped := Escaped.read text
    ⟨directive.padded (cut escaped.text), [], escaped.stops⟩
  | kind =>
    let (number, faults) := numberOf argument
    match base? kind with
    | some base =>
      let digits := Nat.toDigits base (number % (Nat.pow 2 64 : Nat)).toNat
      let digits := if kind = 'X' then digits.map Char.toUpper else digits
      ⟨directive.paddedNumber [] digits, faults, false⟩
    | none =>
      if kind = 'd' || kind = 'i' then
        let digits := Nat.toDigits 10 number.natAbs
        ⟨directive.paddedNumber (directive.sign number) digits, faults, false⟩
      else ⟨[], [text], true⟩

end Directive

namespace Format

/-- Fills in the parts of a format once, and gives the arguments that are left. -/
def fillOnce : Format → Words → Printed × Words
  | [], arguments => (.nothing, arguments)
  | .literal text :: items, arguments =>
    let (printed, left) := fillOnce items arguments
    (Printed.append ⟨text, [], false⟩ printed, left)
  | .directive directive :: items, arguments =>
    let (printed, left) := fillOnce items (arguments.drop 1)
    ((directive.fill arguments.head?).append printed, left)

/-- Fills in a format again as long as arguments are left, so many times at most. -/
def fillRounds (format : Format) : Nat → Words → Printed
  | 0, _ => .nothing
  | rounds + 1, arguments =>
    let (printed, left) := fillOnce format arguments
    if left.isEmpty || left.length = arguments.length then printed
    else printed.append (fillRounds format rounds left)

/-- Fills in a format. -/
def fill (format : Format) (arguments : Words) : Printed :=
  format.fillRounds (arguments.length + 1) arguments

end Format

end SealedEnv.Host
