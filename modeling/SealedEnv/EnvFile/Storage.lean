import SealedEnv.EnvFile.Update
import SealedEnv.Store.AtomicWrite

/-!
Contract: env files in a store.

Owns:
- `load`, for which a missing file is an empty one;
- `setKey`, which replaces the file as a whole.

Does not own: the text of an env file.
-/

namespace SealedEnv.EnvFile

def fileMode : Nat := 0o644

/-- The text at the end of a path, which is empty if there is no file. -/
def storedText (path : Path) : Action IoError String := do
  try Action.ask fun store here => store.readText here path
  catch
  | .os .noEntry => pure ""
  | cause => throw cause

/-- The map that the file at the end of a path denotes. -/
def load (path : Path) : Action IoError EnvMap := do
  return parse (← storedText path)

def setKey (path : Path) (key value : String) : Action IoError Unit := do
  let text ← storedText path
  writeAtomicWithin path (Utf8.encode (update text key value)) fileMode

end SealedEnv.EnvFile
