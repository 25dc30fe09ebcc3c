import SealedEnv.Base64
import SealedEnv.Host.Options
import SealedEnv.Host.Printed

/-!
Contract: the machine's programs that read bytes and write bytes.

Owns:
- parts of a content: `cat`, `head`, `tail`, `wc`, `cut`;
- other orders and other forms: `sort`, `uniq`, `tr`, `od`, `base64`;
- `tee`, which writes twice.

Does not own: files as entries of directories.
-/

namespace SealedEnv.Host.Tool

def lines (text : String) : Words :=
  let pieces := text.splitOn "\n"
  if pieces.getLast? = some "" then pieces.dropLast else pieces

def joinLines (texts : Words) : String := String.join (texts.map (· ++ "\n"))

/-- A program that writes a function of what the named files hold. -/
def filtering (title problem : String) (names : Words) (change : String → String) :
    StateM Task Nat := do
  let (code, held) ← contents title problem names
  print (change (spelled held))
  return code

def cat : Tool := fun arguments =>
  filtering "cat" "%" (Options.read [] arguments).operands id

def count (text : String) (default : Nat) : Nat := (text.toNat?).getD default

def endedLines (text : String) : Words :=
  let pieces := text.splitOn "\n"
  (pieces.dropLast.map (· ++ "\n")) ++ (pieces.getLast?.filter (· ≠ "")).toList

/-- How many lines the options ask for. -/
def asked (options : Options) : String :=
  (options.value? 'n').getD <|
    let digits := options.letters.filter Char.isDigit
    if digits.isEmpty then "10" else String.ofList digits

def front {kind : Type} (size : String) (items : List kind) : List kind :=
  match size.toList with
  | '-' :: digits => items.take (items.length - count (String.ofList digits) 0)
  | _ => items.take (count size 0)

/-- The part of a list at its end. -/
def back {kind : Type} (size : String) (items : List kind) : List kind :=
  match size.toList with
  | '+' :: digits => items.drop (count (String.ofList digits) 1 - 1)
  | '-' :: digits => items.drop (items.length - count (String.ofList digits) 0)
  | _ => items.drop (items.length - count size 0)

def head : Tool := fun arguments => do
  let options := Options.read ['n', 'c'] arguments
  filtering "head" "cannot open '%' for reading" options.operands fun text =>
    match options.value? 'c' with
    | some size => String.ofList (front size text.toList)
    | none => String.join (front (asked options) (endedLines text))

def tail : Tool := fun arguments => do
  let options := Options.read ['n', 'c'] arguments
  filtering "tail" "cannot open '%' for reading" options.operands fun text =>
    match options.value? 'c' with
    | some size => String.ofList (back size text.toList)
    | none => String.join (back (asked options) (endedLines text))

def blankWords (text : String) : Words :=
  (text.splitToList fun c => [' ', '\t', '\n', '\x0b', '\x0c', '\r'].contains c).filter (· ≠ "")

def wc : Tool := fun arguments => do
  let options := Options.read [] arguments
  let (code, held) ← contents "wc" "%" options.operands
  let text := spelled held
  let all := !(['l', 'w', 'c', 'm'].any options.has)
  let counts :=
    (if all || options.has 'l' then [text.toList.count '\n'] else []) ++
    (if all || options.has 'w' then [(blankWords text).length] else []) ++
    (if all || options.has 'c' || options.has 'm' then [held.length] else [])
  let width := if counts.length ≤ 1 then 0 else if options.operands.isEmpty then 7 else
    (toString held.length).length
  let shown := counts.map fun number =>
    let digits := Nat.toDigits 10 number
    String.ofList (List.replicate (width - digits.length) ' ' ++ digits)
  print (" ".intercalate (shown ++ options.operands.take 1) ++ "\n")
  return code

def tee : Tool := fun arguments => do
  let options := Options.read [] arguments
  let data ← takeInput
  print (spelled data)
  each "tee" "%" options.operands fun name => change <|
    Action.change fun store here => do
      let before := if options.has 'a' then (store.read here (bytes name)).toOption.getD [] else []
      store.writeFile here (bytes name) 0o644 (before ++ data)

def leadingNumber (line : String) : Int :=
  match line.toList.dropWhile fun c => c = ' ' || c = '\t' with
  | '-' :: rest => -(Format.number (rest.takeWhile Char.isDigit) : Int)
  | chars => Format.number (chars.takeWhile Char.isDigit)

def sort : Tool := fun arguments => do
  let options := Options.read ['k', 't'] arguments
  filtering "sort" "cannot read: %" options.operands fun text =>
    let before := fun left right : String =>
      if options.has 'n' && leadingNumber left ≠ leadingNumber right then
        decide (leadingNumber left < leadingNumber right)
      else decide (left ≤ right)
    let sorted := (lines text).mergeSort before
    let ordered := if options.has 'r' then sorted.reverse else sorted
    joinLines (if options.has 'u' then ordered.eraseDups else ordered)

/-- Groups equal neighbours and counts them. -/
def runs : Words → List (Nat × String)
  | [] => []
  | line :: rest =>
    match runs rest with
    | (number, next) :: more =>
      if line = next then (number + 1, next) :: more else (1, line) :: (number, next) :: more
    | [] => [(1, line)]

def uniq : Tool := fun arguments => do
  let options := Options.read [] arguments
  filtering "uniq" "%" options.operands fun text =>
    let groups := (runs (lines text)).filter fun group =>
      (!options.has 'd' || 1 < group.1) && (!options.has 'u' || group.1 = 1)
    joinLines <| groups.map fun group =>
      if options.has 'c' then
        let digits := Nat.toDigits 10 group.1
        String.ofList (List.replicate (7 - digits.length) ' ' ++ digits) ++ " " ++ group.2
      else group.2

def inRanges (list : String) (number : Nat) : Bool :=
  (list.splitOn ",").any fun range =>
    match range.splitOn "-" with
    | [single] => count single 0 = number
    | [first, last] => count first 1 ≤ number && (last.isEmpty || number ≤ count last 0)
    | _ => false

/-- The items whose numbers, from one, are in a list of ranges. -/
def pick {kind : Type} (list : String) (items : List kind) : List kind :=
  ((items.zip (List.range' 1 items.length)).filter fun item => inRanges list item.2).map Prod.fst

def cut : Tool := fun arguments => do
  let options := Options.read ['d', 'f', 'c', 'b'] arguments
  filtering "cut" "%" options.operands fun text =>
    joinLines <| (lines text).map fun line =>
      match options.value? 'f', (options.value? 'c').or (options.value? 'b') with
      | some list, _ =>
        let between := (options.value? 'd').getD "\t"
        if (line.splitOn between).length ≤ 1 then line
        else between.intercalate (pick list (line.splitOn between))
      | none, some list => String.ofList (pick list line.toList)
      | none, none => line

def charClass : String → List Char
  | "lower" => (List.range' 97 26).map Char.ofNat
  | "upper" => (List.range' 65 26).map Char.ofNat
  | "alpha" => (List.range' 65 26 ++ List.range' 97 26).map Char.ofNat
  | "digit" => (List.range' 48 10).map Char.ofNat
  | "alnum" => (List.range' 48 10 ++ List.range' 65 26 ++ List.range' 97 26).map Char.ofNat
  | "space" => ['\t', '\n', '\x0b', '\x0c', '\r', ' ']
  | "blank" => ['\t', ' ']
  | _ => []

def charSetWithin : Nat → List Char → List Char
  | 0, _ => []
  | _, [] => []
  | fuel + 1, '[' :: ':' :: rest =>
    charClass (String.ofList (rest.takeWhile (· ≠ ':'))) ++
      charSetWithin fuel ((rest.dropWhile (· ≠ ':')).drop 2)
  | fuel + 1, first :: '-' :: last :: rest =>
    (List.range' first.toNat (last.toNat + 1 - first.toNat)).map Char.ofNat ++
      charSetWithin fuel rest
  | fuel + 1, first :: rest => first :: charSetWithin fuel rest

def charSet (text : String) : List Char :=
  let chars := (Escaped.read text).text
  charSetWithin chars.length chars

/-- Drops repetitions of neighbours that satisfy a predicate. -/
def squeeze (chosen : Char → Bool) : List Char → List Char
  | first :: second :: rest =>
    if first = second && chosen first then squeeze chosen (second :: rest)
    else first :: squeeze chosen (second :: rest)
  | text => text

/-- Replaces or removes characters. -/
def tr : Tool := fun arguments => do
  let options := Options.read [] arguments
  let sets := options.operands.map charSet
  let first := sets.headD []
  let second := (sets.drop 1).headD []
  let complement := options.has 'c' || options.has 'C'
  let inFirst := fun c : Char => first.contains c != complement
  let replaced := fun c : Char =>
    if !inFirst c then c
    else if complement then second.getLastD c
    else second.getD (first.idxOf c) (second.getLastD c)
  filtering "tr" "%" [] fun text =>
    let kept := if options.has 'd' then text.toList.filter fun c => !inFirst c
      else if second.isEmpty then text.toList else text.toList.map replaced
    let squeezed := if options.has 's' then
      squeeze (if second.isEmpty then inFirst else second.contains) kept else kept
    String.ofList squeezed

/-- The bytes of a list in groups of `size`, for so many groups. -/
def groups (size : Nat) : Nat → Bytes → List Bytes
  | 0, _ => []
  | fuel + 1, list =>
    if list.isEmpty then [] else list.take size :: groups size fuel (list.drop size)

def zeroFilled (base width number : Nat) : String :=
  let digits := Nat.toDigits base number
  String.ofList (List.replicate (width - digits.length) '0' ++ digits)

/-- The form of the numbers in a dump: how many bytes make up a number, its base and its width. -/
structure DumpForm where
  size : Nat
  base : Nat
  width : Nat

def dumpForms : List (String × DumpForm) :=
  [("x1", ⟨1, 16, 2⟩), ("o1", ⟨1, 8, 3⟩), ("x2", ⟨2, 16, 4⟩), ("o2", ⟨2, 8, 6⟩)]

/-- The numbers that bytes stand for in a form; the lowest byte comes first. -/
def dumped (form : DumpForm) (held : Bytes) : String :=
  String.join <| (groups form.size (held.length + 1) held).map fun group =>
    let number := group.foldr (fun byte value => value * 256 + byte.toNat) 0
    " " ++ zeroFilled form.base form.width number

/-- The lines of a dump.  A line like the one before it is left out, for all such lines in a row one
star stands, unless every line is asked for. -/
def dumpLines (every : Bool) (line : Nat → Bytes → String) :
    (offset : Nat) → (last : Option Bytes) → (starred : Bool) → List Bytes → Words
  | _, _, _, [] => []
  | offset, last, starred, group :: rest =>
    if !every && last = some group && !rest.isEmpty then
      (if starred then [] else ["*"]) ++ dumpLines every line (offset + 16) last true rest
    else line offset group :: dumpLines every line (offset + 16) (some group) false rest

/-- Writes bytes as numbers. -/
def od : Tool := fun arguments => do
  let options := Options.read ['A', 't', 'N', 'j'] arguments
  let (code, held) ← contents "od" "%" options.operands
  let title := (options.value? 't').getD (if options.has 'x' then "x2" else "o2")
  match dumpForms.lookup title with
  | none =>
    complain s!"od: {title}: unknown form"
    return 1
  | some form =>
    let address := fun offset : Nat => match options.value? 'A' with
      | some "n" => ""
      | some "x" => zeroFilled 16 6 offset
      | some "d" => zeroFilled 10 7 offset
      | _ => zeroFilled 8 7 offset
    let line := fun offset group => address offset ++ dumped form group
    let body := dumpLines (options.has 'v') line 0 none false (groups 16 (held.length + 1) held)
    let last := if options.value? 'A' = some "n" then [] else [address held.length]
    print (joinLines (body ++ last))
    return code

def base64 : Tool := fun arguments => do
  let options := Options.read ['w'] arguments
  let (code, held) ← contents "base64" "%" options.operands
  if options.has 'd' || options.long.contains "decode" then
    match Base64.decode (String.ofList ((spelled held).toList.filter (· ≠ '\n'))) with
    | .ok plain =>
      print (spelled plain)
      return code
    | .error _ =>
      complain "base64: invalid input"
      return 1
  else
    let text := Base64.encode held
    let width := ((options.value? 'w').map (count · 76)).getD 76
    if width = 0 then print text
    else print (joinLines ((groups width (text.length + 1) (bytes text)).map spelled))
    return code

end SealedEnv.Host.Tool
