import SealedEnv.Store.Change
import SealedEnv.Store.Naming
import SealedEnv.Tape

/-!
Contract: the surroundings of a running command, and actions on them.

Owns:
- `World`, the files, the working directory, the variables and the random bytes of a command;
- `Action`, a computation that may fail and whose changes stay when it fails;
- single changes of the store, each of which the system may refuse for reasons of its own;
- removals that are asked for without looking at what comes of them: what is stuck stays.

Does not own: what a command does.
-/

namespace SealedEnv

abbrev Variable := Bytes × Bytes

structure World where
  store : Store
  /-- The working directory. -/
  here : Place
  /-- The environment, in order. -/
  environment : List Variable
  /-- What the standard input holds. -/
  input : Except IoError Bytes
  /-- How often the standard input was read. -/
  inputReads : Nat
  /-- The nanoseconds since the beginning of 1970. -/
  clock : Nat
  /-- The random bytes that are still to be drawn. -/
  tape : Tape
  /-- For each of the next changes of the store, whether the system refuses it although the store
  allows it. -/
  refusals : List (Option Errno)
  /-- The places whose entries the system does not let go although the store allows it. -/
  stuck : List Place
  /-- Where the names of passing entries come from. -/
  names : NameSource

instance : Inhabited World := ⟨⟨.empty, [], [], .ok [], 0, 0, [], [], [], .zeros⟩⟩

/-- A computation in a world, which fails with causes of one kind.  What it changed before it
failed stays changed. -/
abbrev Action (cause : Type) := ExceptT cause (StateM World)

namespace Action

/-- The result of a question about the store. -/
def ask {value : Type} (question : Store → Place → Except IoError value) : Action IoError value :=
  fun world => (question world.store world.here, world)

def change (step : Store → Place → Except IoError Store) : Action IoError Unit := fun world =>
  match world.refusals with
  | some errno :: later => (.error (.os errno), { world with refusals := later })
  | refusals =>
    match step world.store world.here with
    | .ok store => (.ok (), { world with store, refusals := refusals.tail })
    | .error cause => (.error cause, { world with refusals := refusals.tail })

/-- Takes an entry away if it is not stuck. -/
def discard {cause : Type} (place : Place) : Action cause Unit := fun world =>
  (.ok (), { world with store := world.store.release world.stuck place })

/-- Takes the entry away that a path ends at, where there is one that may be removed and it is not
stuck. -/
def discardAt {cause : Type} (path : Path) : Action cause Unit := fun world =>
  match world.store.removable world.here path with
  | .ok place => discard place world
  | .error _ => (.ok (), world)

/-- An action after which a tree is taken away, as far as it is not stuck, whether the action failed
or not. -/
def discardingTree
    {cause value : Type}
    (root : Place)
    (action : Action cause value) :
    Action cause value := fun world =>
  let (result, after) := action world
  (result, { after with store := after.store.releaseTree after.stuck root })

/-- An action with its causes put into a larger context. -/
def withCause
    {inner outer value : Type}
    (context : inner → outer)
    (action : Action inner value) :
    Action outer value := fun world =>
  ((action world).1.mapError context, (action world).2)

def ofExcept {cause value : Type} (result : Except cause value) : Action cause value := fun world =>
  (result, world)

def draw
    {cause value : Type}
    (reader : Tape → Except cause value × Tape) :
    Action cause value := fun world =>
  ((reader world.tape).1, { world with tape := (reader world.tape).2 })

def readInput : Action IoError Bytes := fun world =>
  (world.input, { world with inputReads := world.inputReads + 1 })

end Action

end SealedEnv
