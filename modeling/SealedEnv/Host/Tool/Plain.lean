import SealedEnv.Host.Tool.Content

/-!
Contract: the machine's programs that need no files.

Owns:
- texts: `echo`, `printf`, `seq`, `basename`, `dirname`;
- surroundings: `pwd`, `printenv`, `sleep`.

Does not own: the programs that start others.
-/

namespace SealedEnv.Host.Tool

/-- Writes its arguments with escapes replaced, and ends the line unless told not to. -/
def echoEscaped : Tool := fun arguments => do
  let (bare, texts) := match arguments with
    | "-n" :: rest => (true, rest)
    | arguments => (false, arguments)
  let escaped := Escaped.read (" ".intercalate texts)
  print (String.ofList escaped.text ++ if bare || escaped.stops then "" else "\n")
  return 0

def echo : Tool := fun arguments => do
  let isOption := fun word : String => ["-n", "-e", "-E", "-ne", "-en"].contains word
  let options := arguments.takeWhile isOption
  let text := " ".intercalate (arguments.dropWhile isOption)
  let chosen := fun letter : Char => options.any fun word => word.toList.contains letter
  if chosen 'e' then echoEscaped (if chosen 'n' then ["-n", text] else [text])
  else
    print (text ++ if chosen 'n' then "" else "\n")
    return 0

def printf : Tool := fun arguments =>
  match (if arguments.head? = some "--" then arguments.drop 1 else arguments) with
  | [] => return 2
  | format :: values => do
    let printed := (Format.read format).fill values
    print (String.ofList printed.text)
    printed.faults.forM fun fault => complain s!"printf: {fault}: expected numeric value"
    return if printed.faults.isEmpty then 0 else 1

/-- Writes numbers in a row, so many of them at most. -/
def countUp (step last : Int) : Nat → Int → Words
  | 0, _ => []
  | fuel + 1, number =>
    if (0 ≤ step && last < number) || (step < 0 && number < last) then []
    else toString number :: countUp step last fuel (number + step)

def seq : Tool := fun arguments => do
  let numbers := arguments.map fun word => (readNumber word.toList).1
  let (first, step, last) := match numbers with
    | [last] => (1, 1, last)
    | [first, last] => (first, 1, last)
    | [first, step, last] => (first, step, last)
    | _ => (1, 1, 0)
  print (joinLines (countUp step last ((last - first).natAbs + 1) first))
  return 0

def basename : Tool := fun arguments => do
  match arguments with
  | [] => return 1
  | path :: rest =>
    let name := match Path.fileName? (bytes path) with
      | some name => spelled name
      | none => path
    let ending := rest.headD ""
    let short := if name ≠ ending && name.endsWith ending then
      String.ofList (name.toList.take (name.length - ending.length)) else name
    print (short ++ "\n")
    return 0

def dirname : Tool := fun arguments => do
  arguments.forM fun path =>
    let parent := match Path.parent? (bytes path) with
      | some [] => "."
      | some parent => spelled parent
      | none => if path.startsWith "/" then "/" else "."
    print (parent ++ "\n")
  return 0

def pwd : Tool := fun _ => do
  print (spelled (← get).world.here.path ++ "\n")
  return 0

def printenv : Tool := fun arguments => do
  let ending := if arguments.head? = some "-0" then "\x00" else "\n"
  let names := if arguments.head? = some "-0" then arguments.drop 1 else arguments
  let environment := (← get).world.environment
  if names.isEmpty then
    print <| String.join <| environment.map fun held =>
      spelled held.1 ++ "=" ++ spelled held.2 ++ ending
    return 0
  names.foldlM (fun code name => do
    match environment.lookup (bytes name) with
    | some value =>
      print (spelled value ++ ending)
      return code
    | none => return 1) 0

def unitNanos : List Char → Nat
  | ['m'] => 60 * Nat.pow 10 9
  | ['h'] => 3600 * Nat.pow 10 9
  | ['d'] => 86400 * Nat.pow 10 9
  | _ => Nat.pow 10 9

def nanosOf (text : String) : Nat :=
  let whole := text.toList.takeWhile Char.isDigit
  let rest := text.toList.dropWhile Char.isDigit
  let decimals := if rest.head? = some '.' then (rest.drop 1).takeWhile Char.isDigit else []
  let unit := unitNanos (rest.dropWhile fun c => c = '.' || c.isDigit)
  Format.number whole * unit + Format.number decimals * unit / Nat.pow 10 decimals.length

def sleep : Tool := fun arguments => do
  let nanos := (arguments.map nanosOf).foldl (· + ·) 0
  modify fun task => { task with world := { task.world with clock := task.world.clock + nanos } }
  return 0

end SealedEnv.Host.Tool
