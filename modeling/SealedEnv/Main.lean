import SealedEnv.Program.Local

/-!
Contract: the command line over the files of the real machine.

Owns:
- the snapshot of the files that a command line names;
- writing back what was changed, each file as a whole;
- `main`, which runs a verb on the snapshot and prints its report.

Does not own: what a verb does.  A verb that needs a service is reported as such.
-/

namespace SealedEnv.Main

def namedFiles : Invocation → List Path
  | .makeKeyPair privateFile publicFile => [privateFile, publicFile]
  | .sealInput publicFile out _ => [publicFile, out]
  | .unsealFile input privateFile _ _ => [input, privateFile]
  | .version | .serve .. | .run _ => []

/-- The place that a path from the root names by its text. -/
def placeNamed (path : Path) : Place :=
  (path.pieces.filter fun piece => !Path.isIdle piece).reverse

def withFolders (store : Store) : Place → Store
  | [] => store
  | name :: above => withFolders (store.insert (name :: above) .directory) above

/-- Adds the file at the end of a path to a snapshot, if there is one. -/
def take (here : Path) (store : Store) (path : Path) : IO Store := do
  let place := placeNamed (here.join path)
  let folders := withFolders store place.tail
  try
    let data ← IO.FS.readBinFile (Path.display (here.join path))
    return folders.insert place (.file 0o644 data.toList)
  catch _ => return folders

def rights (digit : Nat) : IO.AccessRight :=
  { read := digit &&& 4 ≠ 0, write := digit &&& 2 ≠ 0, execution := digit &&& 1 ≠ 0 }

/-- Writes a file as a whole. -/
def put (path : String) (mode : Nat) (data : Bytes) : IO Unit := do
  let passing := path ++ AtomicWrite.passingStart
  IO.FS.writeBinFile passing ⟨data.toArray⟩
  IO.setAccessRights passing ⟨rights (mode / 64 % 8), rights (mode / 8 % 8), rights (mode % 8)⟩
  IO.FS.rename passing path

/-- Writes back the nodes that were not there before. -/
def putAll (before after : Store) : IO Unit :=
  after.entries.forM fun (place, node) => do
    if before.look place ≠ some node then
      match node with
      | .directory => IO.FS.createDirAll place.path.display
      | .file mode data => put place.path.display mode data
      | _ => return

partial def readToEnd (stream : IO.FS.Stream) (done : ByteArray) : IO ByteArray := do
  let piece ← stream.read 65536
  if piece.isEmpty then return done else readToEnd stream (done ++ piece)

def exitCode : Ending → UInt32
  | .exited code => UInt32.ofNat code
  | .signalled signal => UInt32.ofNat (128 + signal)

def run (arguments : List String) : IO UInt32 := do
  let words := (Program.programName :: arguments).map Utf8.encode
  let here := Path.ofText (← IO.currentDir).toString
  let invocation := (Invocation.parse words).toOption
  let store ← ((invocation.map namedFiles).getD []).foldlM (take here) Store.empty
  let input ← match invocation with
    | some (.sealInput ..) => readToEnd (← IO.getStdin) .empty
    | _ => pure .empty
  let tape ← IO.getRandomBytes 64
  let world := { (default : World) with
    store := withFolders store (placeNamed here), here := placeNamed here
    input := .ok input.toList, tape := tape.toList }
  let (report, after) := Program.runLocal words world
  putAll world.store after.store
  (← IO.getStdout).write ⟨report.output.toArray⟩
  (← IO.getStderr).write ⟨report.errors.toArray⟩
  return exitCode report.ending

end SealedEnv.Main

def main (arguments : List String) : IO UInt32 := SealedEnv.Main.run arguments
