import SealedEnv.Store.World

/-!
Contract: replacing a file as a whole.

Owns:
- the stages of a replacement: a file under a fresh name beside the target gets its bytes and its
  permissions and is then moved to the target;
- `writeAtomic`, which takes the fresh file away again when a stage fails, if the system lets it go;
- `makeDirectories`, for targets whose directories may be missing.

Does not own: what is written.
-/

namespace SealedEnv

/-- A replacement: the place of the passing file, the target, and what it is to be. -/
structure AtomicWrite where
  passing : Place
  target : Path
  mode : Nat
  data : Bytes

namespace AtomicWrite

def folder (target : Path) : Path :=
  match target.parent? with
  | some parent => if parent.isEmpty then Path.dot else parent
  | none => Path.dot

def passingStart : String := ".tmp-"

def passingName (names : NameSource) (store : Store) (here : Place) (target : Path) : Name :=
  names.name passingStart store here (folder target)

/-- A path in the folder of a target. -/
def besides (here : Place) (target : Path) (name : Name) : Path :=
  (here.path.join (folder target)).join name

def passingPath (names : NameSource) (store : Store) (here : Place) (target : Path) : Path :=
  besides here target (passingName names store here target)

/-- A name of the length that is drawn. -/
def sampleName : Name := Path.ofText passingStart ++ NameSource.zerosOf 0

def passingPlace (names : NameSource) (store : Store) (here : Place) (target : Path) :
    Except IoError Place := do
  if Store.pathBound ≤ (besides here target sampleName).length then throw (.os .nameTooLong)
  match ← store.locate here (folder target) true with
  | .present directory .directory => return passingName names store here target :: directory
  | .present _ _ => throw (.os .notDirectory)
  | .absent .. => throw (.os .noEntry)

inductive Stage where
  | create
  | write
  | sync
  | permit
  | move
deriving DecidableEq

def Stage.all : List Stage := [.create, .write, .sync, .permit, .move]

def ownerMode : Nat := 0o600

/-- What a stage does to the store. -/
def Stage.step (plan : AtomicWrite) (store : Store) (here : Place) :
    Stage → Except IoError Store
  | .create => .ok (store.insert plan.passing (.file ownerMode []))
  | .write => .ok (store.insert plan.passing (.file ownerMode plan.data))
  | .sync => .ok store
  | .permit => .ok (store.insert plan.passing (.file plan.mode plan.data))
  | .move => store.moveFile here plan.passing plan.target

/-- Runs stages in order. -/
def perform (plan : AtomicWrite) : List Stage → Action IoError Unit
  | [] => pure ()
  | stage :: rest => do
    Action.change fun store here => stage.step plan store here
    perform plan rest

end AtomicWrite

/-- Replaces the file at the end of a path, or makes it.  Until the last stage has succeeded the
path leads where it led before, unless it leads to the passing file, and a failure leaves nothing
behind but a passing file that is stuck. -/
def writeAtomic (target : Path) (data : Bytes) (mode : Nat) : Action IoError Unit := do
  let world ← get
  let path := AtomicWrite.passingPath world.names world.store world.here target
  let passing ← Action.withCause (IoError.at · path) <| Action.ask fun store here =>
    AtomicWrite.passingPlace world.names store here target
  let plan : AtomicWrite := { passing, target, mode, data }
  Action.withCause (IoError.at · path) (plan.perform [.create])
  try plan.perform AtomicWrite.Stage.all.tail
  catch cause =>
    Action.discard passing
    throw cause

/-- Makes the first of some directories, each of which is an entry of the one after it, and before
it those that are missing. -/
def makeDirectories : List Path → Action IoError Unit
  | [] => pure ()
  | path :: above =>
    if path.isEmpty then pure ()
    else
      tryCatch (Action.change fun store here => store.makeDirectory here path) fun cause =>
        if cause = .os .noEntry then do
          makeDirectories above
          try Action.change fun store here => store.makeDirectory here path
          catch cause => unlessDirectory path cause
        else unlessDirectory path cause
where
  /-- Fails unless a path leads to a directory. -/
  unlessDirectory (path : Path) (cause : IoError) : Action IoError Unit := do
    let world ← get
    if world.store.isDirectory world.here path then pure () else throw cause

/-- Replaces the file at the end of a path, and makes the directories that lead to it. -/
def writeAtomicWithin (target : Path) (data : Bytes) (mode : Nat) : Action IoError Unit := do
  match target.parent? with
  | some parent => makeDirectories parent.ancestors
  | none => pure ()
  writeAtomic target data mode

end SealedEnv
