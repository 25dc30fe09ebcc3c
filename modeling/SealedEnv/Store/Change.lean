import SealedEnv.Store.Walk

/-!
Contract: single changes of a store, as the system makes or refuses them.

Owns:
- making directories, links, files and sockets;
- removing, renaming, and setting permissions.

Does not own: sequences of changes, or what becomes of them when one is refused.
-/

namespace SealedEnv.Store

/-- Makes a directory, which is empty: neither at its place nor below it does anything stand. -/
def makeDirectory (store : Store) (here : Place) (path : Path) : Except IoError Store := do
  match (← store.slot here path) with
  | ⟨directory, .named name _⟩ =>
    if store.occupied (name :: directory) then throw (.os .alreadyExists)
    return store.insert (name :: directory) .directory
  | _ => throw (.os .alreadyExists)

def makeLink (store : Store) (here : Place) (target path : Path) : Except IoError Store := do
  if target.contains 0 then throw .interiorZero
  if target.isEmpty then throw (.os .noEntry)
  if pathBound ≤ target.length then throw (.os .nameTooLong)
  match (← store.slot here path) with
  | ⟨directory, .named name slashed⟩ =>
    match store.look (name :: directory) with
    | none =>
      if slashed then throw (.os .noEntry)
      return store.insert (name :: directory) (.link target)
    | some _ => throw (.os .alreadyExists)
  | _ => throw (.os .alreadyExists)

def makeFile
    (store : Store)
    (here : Place)
    (path : Path)
    (mode : Nat)
    (data : Bytes) :
    Except IoError Store := do
  match (← store.slot here path) with
  | ⟨directory, .named name slashed⟩ =>
    if slashed then throw (.os .isDirectory)
    match store.look (name :: directory) with
    | none => return store.insert (name :: directory) (.file mode data)
    | some _ => throw (.os .alreadyExists)
  | _ => throw (.os .isDirectory)

/-- Makes a file, or gives one that is there new bytes and its old permissions. -/
def writeFile
    (store : Store)
    (here : Place)
    (path : Path)
    (mode : Nat)
    (data : Bytes) :
    Except IoError Store := do
  match (← store.locate here path true) with
  | .present place (.file mode _) => return store.insert place (.file mode data)
  | .present _ .directory => throw (.os .isDirectory)
  | .present _ (.socket ..) => throw (.os .noDevice)
  | .present _ (.link _) | .present _ (.program _) => throw (.os .accessDenied)
  | .present _ .void => return store
  | .absent directory name slashed =>
    if slashed then throw (.os .isDirectory)
    return store.insert (name :: directory) (.file mode data)

def withMode (mode : Nat) : Node → Node
  | .file _ data => .file mode data
  | .socket _ listening => .socket mode listening
  | node => node

def setMode (store : Store) (here : Place) (path : Path) (mode : Nat) : Except IoError Store := do
  match (← store.locate here path true) with
  | .present [] _ => return store
  | .present place node => return store.insert place (withMode mode node)
  | .absent .. => throw (.os .noEntry)

/-- The place of the entry that a path ends at, which is no directory and may be removed.  Of a link
it is the place of the link, not of its target. -/
def removable (store : Store) (here : Place) (path : Path) : Except IoError Place := do
  match (← store.slot here path) with
  | ⟨directory, .named name slashed⟩ =>
    match store.look (name :: directory) with
    | none => throw (.os .noEntry)
    | some .directory => throw (.os .isDirectory)
    | some _ =>
      if slashed then throw (.os .notDirectory)
      return name :: directory
  | _ => throw (.os .isDirectory)

def remove (store : Store) (here : Place) (path : Path) : Except IoError Store := do
  return store.erase (← store.removable here path)

/-- Moves the file at `source` to the end of a path, in place of what is there unless that is a
directory. -/
def moveFile (store : Store) (here source : Place) (path : Path) : Except IoError Store := do
  if path.contains 0 then throw (.os .invalidArgument)
  match (← store.slot here path) with
  | ⟨directory, .named name slashed⟩ =>
    match store.look source with
    | none => throw (.os .noEntry)
    | some node =>
      if slashed then throw (.os .notDirectory)
      if store.look (name :: directory) = some .directory then throw (.os .isDirectory)
      return (store.erase source).insert (name :: directory) node
  | _ => throw (.os .busy)

/-- The length that no socket address has. -/
def addressBound : Nat := 108

def checkAddress (path : Path) : Except IoError Unit :=
  if path.contains 0 then .error .interiorZeroInAddress
  else if addressBound ≤ path.length then .error .addressTooLong
  else .ok ()

def listen (store : Store) (here : Place) (path : Path) : Except IoError Store := do
  checkAddress path
  if path.isEmpty then return store
  match (← store.slot here path) with
  | ⟨directory, .named name slashed⟩ =>
    match store.look (name :: directory) with
    | none =>
      if slashed then throw (.os .noEntry)
      return store.insert (name :: directory) (.socket 0o755 true)
    | some _ => throw (.os .addressInUse)
  | _ => throw (.os .addressInUse)

/-- Tells whether a program can be reached at the end of a path. -/
def connect (store : Store) (here : Place) (path : Path) : Except IoError Unit := do
  checkAddress path
  if path.isEmpty then throw (.os .invalidArgument)
  match (← store.node here path true) with
  | .socket _ true => return ()
  | _ => throw (.os .connectionRefused)

/-- The store in which nothing listens at the end of a path any more. -/
def unlisten (store : Store) (here : Place) (path : Path) : Store :=
  match store.locate here path true with
  | .ok (.present place (.socket mode _)) => store.insert place (.socket mode false)
  | _ => store

end SealedEnv.Store
