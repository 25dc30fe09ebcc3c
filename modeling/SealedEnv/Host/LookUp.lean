import SealedEnv.Host.Bytewise
import SealedEnv.Variables

/-!
Contract: finding the program that a name stands for.

Owns:
- `findProgram`, along the list of directories in the environment, with the reason why nothing was
  found.

Does not own: what a program does.
-/

namespace SealedEnv.Host

/-- The directories in which programs are looked for by one who has no list. -/
def standardFolders : Bytes := Path.ofText "/bin:/usr/bin"

/-- What a script's first line says of the program that runs it. -/
def interpreter? (data : Bytes) : Option (List Bytes) :=
  match data with
  | 35 :: 33 :: rest =>
    let line := rest.takeWhile (· ≠ 10)
    let blank := fun byte : UInt8 => byte = 32 || byte = 9
    let line := ((line.dropWhile blank).reverse.dropWhile blank).reverse
    let program := line.takeWhile fun byte => !blank byte
    let option := (line.dropWhile fun byte => !blank byte).dropWhile blank
    if program.isEmpty then none
    else some (program :: if option.isEmpty then [] else [option])
  | _ => none

/-- Tells why what a path leads to is no program, or nothing. -/
def ownObstacle (store : Store) (here : Place) (path : Path) : Option Errno :=
  match store.node here path true with
  | .ok (.program _) => none
  | .ok (.file mode _) => if mode &&& 0o111 = 0 then some .accessDenied else none
  | .ok _ => some .accessDenied
  | .error (.os errno) => some errno
  | .error _ => some .noEntry

/-- Tells why what a path leads to cannot be run, or nothing.  A file is run by what it names. -/
def obstacle (store : Store) (here : Place) (path : Path) : Option Errno :=
  match ownObstacle store here path, store.read here path with
  | none, .ok data =>
    match interpreter? data with
    | some (program :: _) => ownObstacle store here program
    | _ => none
  | found, _ => found

/-- The first of some paths that can be run.  A file that must not be run is worse than none, and
is remembered. -/
def firstRunnable (store : Store) (here : Place) (worst : Errno) : List Path → Except Errno Path
  | [] => .error worst
  | path :: rest =>
    match obstacle store here path with
    | none => .ok path
    | some .noEntry => firstRunnable store here worst rest
    | some .notDirectory => firstRunnable store here worst rest
    | some _ => firstRunnable store here .accessDenied rest

/-- The path of the program that a name stands for: the name itself if there is a slash in it. -/
def findProgram (world : World) (name : Bytes) : Except Errno Path :=
  if name.contains Path.slash then
    match obstacle world.store world.here name with
    | none => .ok name
    | some errno => .error errno
  else if name.isEmpty then .error .noEntry
  else
    let list := (Variables.get? world.environment "PATH").getD standardFolders
    let paths := (list.splitOn 58).map fun folder =>
      if folder.isEmpty then name else Path.join folder name
    firstRunnable world.store world.here .noEntry paths

end SealedEnv.Host
