import SealedEnv.Host.Tool.Content
import SealedEnv.Store.AtomicWrite

/-!
Contract: the machine's programs that look at the tree of files or change it.

Owns:
- looking: `ls`, `stat`, `readlink`;
- making: `touch`, `mkdir`, `ln`, `cp`, `mv`, `chmod`;
- removing: `rm`, `rmdir`.

Does not own: what a single change does to a store.
-/

namespace SealedEnv.Host.Tool

def listing (store : Store) (directory : Place) (all almost : Bool) : Words :=
  let names := (store.names directory).map spelled
  let shown := if all || almost then names else names.filter fun name => !name.startsWith "."
  (if all then [".", ".."] else []) ++ shown.mergeSort (fun left right => decide (left ≤ right))

def ls : Tool := fun arguments => do
  let options := Options.read [] arguments
  let operands := if options.operands.isEmpty then ["."] else options.operands
  let code ← each "ls" "cannot access '%'" operands fun name => do
    match ← ask fun store here => store.locate here (bytes name) true with
    | .error cause => return .error cause
    | .ok (.absent ..) => return .error (.os .noEntry)
    | .ok (.present place .directory) =>
      if options.has 'd' then print (name ++ "\n")
      else
        if 1 < operands.length then print (name ++ ":\n")
        print (joinLines (listing (← get).world.store place (options.has 'a') (options.has 'A')))
      return .ok ()
    | .ok (.present ..) =>
      print (name ++ "\n")
      return .ok ()
  return 2 * code

def modeOf : Node → Nat
  | .file mode _ => mode
  | .socket mode _ => mode
  | .link _ => 0o777
  | .void => 0o666
  | .directory | .program _ => 0o755

def sizeOf : Node → Nat
  | .file _ data => data.length
  | .link target => target.length
  | .directory => 4096
  | _ => 0

def kindOf : Node → String
  | .directory => "directory"
  | .file _ data => if data.isEmpty then "regular empty file" else "regular file"
  | .link _ => "symbolic link"
  | .socket .. => "socket"
  | .void => "character special file"
  | .program _ => "regular file"

/-- Fills in a format with the properties of a node. -/
def describe (name : String) (node : Node) : List Char → String
  | '%' :: kind :: rest =>
    let value := match kind with
      | 'a' => String.ofList (Nat.toDigits 8 (modeOf node % 4096))
      | 'n' => name
      | 's' => toString (sizeOf node)
      | 'F' => kindOf node
      | 'u' | 'g' => "0"
      | 'U' | 'G' => "root"
      | other => String.ofList [other]
    value ++ describe name node rest
  | c :: rest => String.ofList [c] ++ describe name node rest
  | [] => ""

/-- Tells properties of files. -/
def stat : Tool := fun arguments => do
  let options := Options.read ['c'] arguments
  each "stat" "cannot statx '%'" options.operands fun name => do
    match ← ask fun store here => store.node here (bytes name) (options.has 'L') with
    | .error cause => return .error cause
    | .ok node =>
      print (describe name node ((options.value? 'c').getD "%n").toList ++ "\n")
      return .ok ()

/-- Tells where links lead. -/
def readlink : Tool := fun arguments => do
  let options := Options.read [] arguments
  options.operands.foldlM (fun code name => do
    match ← ask fun store here => store.node here (bytes name) false with
    | .ok (.link target) =>
      print (spelled target ++ if options.has 'n' then "" else "\n")
      return code
    | _ => return 1) 0

def touch : Tool := fun arguments =>
  each "touch" "cannot touch '%'" (Options.read [] arguments).operands fun name => change <|
    Action.change fun store here =>
      match store.node here (bytes name) true with
      | .ok _ => .ok store
      | .error _ => store.writeFile here (bytes name) 0o644 []

def mkdir : Tool := fun arguments =>
  let options := Options.read ['m'] arguments
  each "mkdir" "cannot create directory '%'" options.operands fun name => change <|
    if options.has 'p' then makeDirectories (Path.ancestors (bytes name))
    else Action.change fun store here => store.makeDirectory here (bytes name)

/-- Removes an entry, or with `whole` all that is below it. -/
def removeEntry (store : Store) (here : Place) (name : String) (whole : Bool) :
    Except IoError Store := do
  match store.locate here (bytes name) false with
  | .ok (.present (last :: above) .directory) =>
    if whole then return (store.eraseTree (last :: above)).erase (last :: above)
    else throw (.os .isDirectory)
  | _ => store.remove here (bytes name)

def rm : Tool := fun arguments =>
  let options := Options.read [] arguments
  let whole := options.has 'r' || options.has 'R'
  each "rm" "cannot remove '%'" options.operands fun name => do
    match ← change (Action.change fun store here => removeEntry store here name whole) with
    | .error (.os .noEntry) => return if options.has 'f' then .ok () else .error (.os .noEntry)
    | result => return result

def rmdir : Tool := fun arguments =>
  each "rmdir" "failed to remove '%'" (Options.read [] arguments).operands fun name => change <|
    Action.change fun store here => do
      match ← store.locate here (bytes name) false with
      | .present (last :: above) .directory =>
        if (store.names (last :: above)).isEmpty then return store.erase (last :: above)
        else throw (.os .notEmpty)
      | .present .. => throw (.os .notDirectory)
      | .absent .. => throw (.os .noEntry)

/-- The path of an entry that is made at a path or, if that is a directory, in it. -/
def target (store : Store) (here : Place) (source goal : String) : Path :=
  if store.isDirectory here (bytes goal) then
    Path.join (bytes goal) ((Path.fileName? (bytes source)).getD (bytes source))
  else bytes goal

/-- Makes an entry for each operand but the last one, which says where. -/
def toward
    (title problem : String)
    (operands : Words)
    (step : Store → Place → String → Path → Except IoError Store) :
    StateM Task Nat :=
  let goal := operands.getLastD "."
  each title problem operands.dropLast fun source => change <|
    Action.change fun store here => step store here source (target store here source goal)

def ln : Tool := fun arguments =>
  let options := Options.read [] arguments
  let operands := match options.operands with
    | [source] => [source, "."]
    | operands => operands
  toward "ln" "failed to create link '%'" operands fun store here source path => do
    let store := if options.has 'f' then (store.remove here path).toOption.getD store else store
    if options.has 's' then store.makeLink here (bytes source) path
    else
      match ← store.node here (bytes source) false with
      | .file mode data => store.makeFile here path mode data
      | _ => throw (.os .notPermitted)

def cp : Tool := fun arguments =>
  let names := (Options.read [] arguments).operands
  toward "cp" "cannot copy '%'" names fun store here source path => do
    match ← store.node here (bytes source) true with
    | .file mode data => store.writeFile here path mode data
    | .directory => throw (.os .isDirectory)
    | _ => store.writeFile here path 0o644 []

def mv : Tool := fun arguments =>
  let names := (Options.read [] arguments).operands
  toward "mv" "cannot move '%'" names fun store here source path => do
    match ← store.locate here (bytes source) false with
    | .present _ .directory => throw (.os .isDirectory)
    | .present place _ => store.moveFile here place path
    | .absent .. => throw (.os .noEntry)

def chmod : Tool := fun arguments =>
  match (Options.read [] arguments).operands with
  | mode :: names =>
    each "chmod" "cannot access '%'" names fun name => change <|
      Action.change fun store here =>
        store.setMode here (bytes name) (readOctal mode.length 0 mode.toList).1
  | [] => return 1

end SealedEnv.Host.Tool
