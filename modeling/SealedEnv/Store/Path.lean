import SealedEnv.Text.Utf8

/-!
Contract: paths as texts.

Owns:
- `Path`, a byte string, and the pieces between its slashes;
- the components of a path, its parent and its last name;
- joining, absolute forms and the form that messages show.

Does not own: what a path leads to, which depends on a store.
-/

namespace SealedEnv

abbrev Path := Bytes

abbrev Name := Bytes

namespace Path

def slash : UInt8 := 47

/-- The piece that stays where it is. -/
def dot : Name := [46]

/-- The piece that leads to the directory above. -/
def dotDot : Name := [46, 46]

def ofText (text : String) : Path := Utf8.encode text

/-- A path as messages show it, with U+FFFD in place of broken bytes. -/
def display (path : Path) : String := Utf8.decodeLossy path

def isAbsolute (path : Path) : Bool := path.head? = some slash

/-- What stands between the slashes of a path, empty pieces included. -/
def pieces (path : Path) : List Name := path.splitOn slash

def ofPieces (pieces : List Name) : Path := [slash].intercalate pieces

/-- Holds of the pieces that lead nowhere when they follow another piece. -/
def isIdle (piece : Name) : Bool := piece.isEmpty || piece = dot

inductive Component where
  | root
  | here
  | above
  | name (name : Name)
deriving DecidableEq

def Component.ofPiece (piece : Name) : Component :=
  if piece = dotDot then .above else .name piece

/-- The components of a path.  Repeated slashes, a slash at the end and dots are left out, except
a dot at the front of a relative path. -/
def components (path : Path) : List Component :=
  let front :=
    if path.isAbsolute then [.root] else if path.pieces.head? = some dot then [.here] else []
  front ++ (path.pieces.filter fun piece => !isIdle piece).map Component.ofPiece

/-- The last name of a path, unless the path ends otherwise. -/
def fileName? (path : Path) : Option Name :=
  match path.components.getLast? with
  | some (.name name) => some name
  | _ => none

/-- The pieces after the first, without the idle ones at the end. -/
def trimIdle (pieces : List Name) : List Name := (pieces.reverse.dropWhile isIdle).reverse

/-- The path without its last component.  The root and the empty path have none to lose. -/
def parent? (path : Path) : Option Path :=
  match path.pieces with
  | [] => none
  | first :: rest =>
    match trimIdle rest with
    | [] => if first.isEmpty then none else some []
    | piece :: more =>
      match trimIdle (piece :: more).dropLast with
      | [] => some (if first.isEmpty then [slash] else first)
      | kept => some (ofPieces (first :: kept))

def join (base path : Path) : Path :=
  if path.isAbsolute || base.isEmpty then path
  else if base.getLast? = some slash then base ++ path
  else base ++ slash :: path

/-- Where the absolute form of a path starts.  Two leading slashes, but not three, are kept. -/
def absoluteBase (here path : Path) : Path :=
  if !path.isAbsolute then here
  else if path.take 2 = [slash, slash] && path[2]? ≠ some slash then [slash, slash]
  else [slash]

/-- The path from the root, by the text alone: dots and repeated slashes go, double dots and a
slash at the end stay. -/
def absolute (here path : Path) : Path :=
  if path.isEmpty then path
  else
    let steps := path.pieces.filter fun piece => !isIdle piece
    let joined := steps.foldl join (absoluteBase here path)
    if path.getLast? = some slash then joined.join [] else joined

/-- The paths that lead towards `path`, from itself upwards. -/
def ancestorsWithin : Nat → Path → List Path
  | 0, path => [path]
  | fuel + 1, path =>
    match path.parent? with
    | none => [path]
    | some parent => path :: ancestorsWithin fuel parent

/-- A path, its parent, the parent of that, and so on. -/
def ancestors (path : Path) : List Path := ancestorsWithin path.length path

end Path

end SealedEnv
