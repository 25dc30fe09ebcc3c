import SealedEnv.Store.Basic

/-!
Contract: where a path leads in a store.

Owns:
- `walk`, which follows the pieces of a path and the links on its way, forty of them at most;
- `locate`, the same for a whole path, with the refusals of paths that are no paths;
- `slot`, the directory and the last name of a path, where an entry is made or removed.

Does not own: what is done at the end of the way.
-/

namespace SealedEnv.Store

/-- The end of a path. -/
inductive Found where
  | present (place : Place) (node : Node)
  /-- Nothing stands at the last name; `slashed` tells whether slashes follow it. -/
  | absent (directory : Place) (name : Name) (slashed : Bool)
deriving DecidableEq

def nameLimit : Nat := 255

def pathBound : Nat := 4096

def linkLimit : Nat := 40

/-- The directory in which a link's target is looked up. -/
def linkBase (directory : Place) (target : Path) : Place :=
  if target.isAbsolute then [] else directory

/-- Follows pieces from a directory.  A link in the middle of the way, or at its end if `follow`
holds, is left to `jump`, with the pieces that remain. -/
def walkWith
    (store : Store)
    (follow : Bool)
    (jump : Place → List Name → Except Errno Found) :
    Place → List Name → Except Errno Found
  | directory, [] => .ok (.present directory .directory)
  | directory, piece :: rest =>
    if Path.isIdle piece then walkWith store follow jump directory rest
    else if piece = Path.dotDot then walkWith store follow jump directory.tail rest
    else if nameLimit < piece.length then .error .nameTooLong
    else
      let place := piece :: directory
      match store.look place with
      | none =>
        if rest.all List.isEmpty then .ok (.absent directory piece !rest.isEmpty)
        else .error .noEntry
      | some .directory => walkWith store follow jump place rest
      | some (.link target) =>
        if rest.isEmpty && !follow then .ok (.present place (.link target))
        else jump (linkBase directory target) (target.pieces ++ rest)
      | some node => if rest.isEmpty then .ok (.present place node) else .error .notDirectory

/-- Follows pieces from a directory through at most `links` links. -/
def walk (store : Store) (follow : Bool) : Nat → Place → List Name → Except Errno Found
  | 0 => walkWith store follow fun _ _ => .error .tooManyLinks
  | links + 1 => walkWith store follow (walk store follow links)

def checkPath (path : Path) : Except IoError Unit :=
  if path.contains 0 then .error .interiorZero
  else if path.isEmpty then .error (.os .noEntry)
  else if pathBound ≤ path.length then .error (.os .nameTooLong)
  else .ok ()

/-- Where the pieces of a path lead, seen from the directory `here`. -/
def reach (store : Store) (here : Place) (path : Path) (pieces : List Name) (follow : Bool) :
    Except IoError Found :=
  (walk store follow linkLimit (linkBase here path) pieces).mapError .os

/-- Where a path leads, seen from the directory `here`. -/
def locate (store : Store) (here : Place) (path : Path) (follow : Bool) : Except IoError Found := do
  checkPath path
  store.reach here path path.pieces follow

inductive Tail where
  | root
  | dots
  | named (name : Name) (slashed : Bool)
deriving DecidableEq

/-- A last piece in a directory. -/
structure Slot where
  directory : Place
  tail : Tail
deriving DecidableEq

/-- The directory that a path without its last piece leads to, and that piece. -/
def slot (store : Store) (here : Place) (path : Path) : Except IoError Slot := do
  checkPath path
  let pieces := path.pieces
  let body := (pieces.reverse.dropWhile List.isEmpty).reverse
  match body.getLast? with
  | none => return ⟨[], .root⟩
  | some last =>
    match ← store.reach here path body.dropLast true with
    | .present directory .directory =>
      if Path.isIdle last || last = Path.dotDot then return ⟨directory, .dots⟩
      else if nameLimit < last.length then throw (.os .nameTooLong)
      else return ⟨directory, .named last (body.length < pieces.length)⟩
    | .present _ _ => throw (.os .notDirectory)
    | .absent .. => throw (.os .noEntry)

/-- What stands at the end of a path. -/
def node (store : Store) (here : Place) (path : Path) (follow : Bool) : Except IoError Node := do
  match ← store.locate here path follow with
  | .present _ node => return node
  | .absent .. => throw (.os .noEntry)

def isDirectory (store : Store) (here : Place) (path : Path) : Bool :=
  match store.node here path true with
  | .ok .directory => true
  | _ => false

/-- The bytes of the file that a path leads to. -/
def read (store : Store) (here : Place) (path : Path) : Except IoError Bytes := do
  match ← store.node here path true with
  | .file _ data => return data
  | .directory => throw (.os .isDirectory)
  | .socket .. => throw (.os .noDevice)
  | .link _ | .program _ | .void => return []

def readText (store : Store) (here : Place) (path : Path) : Except IoError String := do
  match Utf8.decode? (← store.read here path) with
  | some text => return text
  | none => throw .notUtf8

end SealedEnv.Store
