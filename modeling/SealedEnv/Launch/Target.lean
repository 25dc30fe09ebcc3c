import SealedEnv.EnvMap
import SealedEnv.Text.Quoted
import SealedEnv.Variables

/-!
Contract: the program that is started in the end.

Owns:
- its environment, in which plaintexts stand in for what was sent;
- the search for it along a list of directories;
- the failures that keep it from being started.

Does not own: what a started program does.
-/

namespace SealedEnv.Launch

/-- Holds if a variable gets a plaintext. -/
def isReplaced (decrypted : EnvMap) (candidate : Variable) : Bool :=
  (Utf8.decode? candidate.1).any decrypted.contains

/-- The environment of the target.  Reserved variables go, plaintexts come in place of the
variables of their names, and no other name comes in. -/
def targetVariables (current : List Variable) (decrypted : EnvMap) : List Variable :=
  let kept := current.filter fun candidate => !isReserved candidate.1
  let plaintexts := decrypted.entries.map fun entry =>
    (Utf8.encode entry.1, Utf8.encode entry.2)
  (kept.filter fun candidate => !isReplaced decrypted candidate) ++
    plaintexts.filter fun plaintext => kept.any fun candidate => candidate.1 = plaintext.1

/-- Holds of what can be run: a program, or a file with the permission to run. -/
def isRunnable : Node → Bool
  | .file mode _ => mode &&& 0o111 ≠ 0
  | .program _ => true
  | _ => false

def leadsToRunnable (store : Store) (here : Place) (path : Path) : Bool :=
  match store.node here path true with
  | .ok node => isRunnable node
  | .error _ => false

def searchFolders (list : Bytes) : List Path := list.splitOn 58

/-- The paths at which a name is looked for.  A name of several components is a path already; any
other one is looked for in the directories of the list, if there is a list. -/
def searchPaths (here : Place) (name : Path) (list : Option Bytes) : List Path :=
  if name.isEmpty then []
  else if 1 < name.components.length then [here.path.join name]
  else match list with
    | none => []
    | some list => (searchFolders list).map fun folder => folder.join name

def search (store : Store) (here : Place) (name : Path) (list : Option Bytes) : Option Path :=
  (searchPaths here name list).find? (leadsToRunnable store here)

inductive LaunchFailure where
  | missingCommand
  | nothingToSend
  | commandNotFound (name : String)
  | notStarted (path : Path) (source : IoError)
deriving DecidableEq

namespace LaunchFailure

def message : LaunchFailure → String
  | missingCommand =>
    "run requires a command to execute. Usage: ojster run [--] <command> [args...]"
  | nothingToSend =>
    "no environment variables have values matching OJSTER_REGEX; nothing to send"
  | commandNotFound name => s!"executable not found {Text.quoted name}"
  | notStarted path source => s!"failed to exec {path.display}: {source.message}"

def exitCode : LaunchFailure → Nat
  | notStarted .. => 1
  | _ => 2

end LaunchFailure

end SealedEnv.Launch
