import SealedEnv.EnvFile.Storage
import SealedEnv.FlatJson
import SealedEnv.Vault.KeyFile
import SealedEnv.Vault.Value

/-!
Contract: unsealing entries of an env file or of a map.

Owns:
- which entries are chosen, and in which order;
- `unsealAll`, which gives all chosen plaintexts or none;
- `unsealSource`, with the order in which key file, source and entries are looked at;
- the two forms in which the plaintexts are printed.

Does not own: the form of a sealed value.
-/

namespace SealedEnv.Vault

inductive Source where
  | file (path : Path)
  | map (entries : EnvMap)

def Source.origin : Source → String
  | .file path => path.display
  | .map _ => "request"

def Source.entries : Source → Action Failure EnvMap
  | .file path =>
    Action.withCause (Failure.envFileUnreadable path.display) (EnvFile.load path)
  | .map entries => return entries

/-- The keys to unseal: those asked for, each at its first place, or without any all keys with a
sealed value. -/
def selection (entries : EnvMap) (requested : List String) : List String :=
  if requested.isEmpty then
    (entries.entries.filter fun entry => Envelope.isSealed entry.2).map Prod.fst
  else requested.eraseDups

/-- The keys without a value, in ascending order. -/
def missing (entries : EnvMap) (keys : List String) : List String :=
  (EnvMap.ofList ((keys.filter fun key => !entries.contains key).map (·, ""))).keys

/-- The plaintexts of keys, or the first failure. -/
def unsealAll (entries : EnvMap) (decapsulator : Kem.Decapsulator) :
    List String → Except Failure (List (String × String))
  | [] => .ok []
  | key :: rest => do
    let plaintext ← unsealValue key ((entries.get? key).getD "") decapsulator
    return (key, plaintext) :: (← unsealAll entries decapsulator rest)

/-- Plaintexts and the order in which they were asked for. -/
structure Unsealed where
  order : List String
  values : EnvMap
deriving DecidableEq

namespace Unsealed

def isEmpty (unsealed : Unsealed) : Bool := unsealed.order.isEmpty

def json (unsealed : Unsealed) : String := FlatJson.encode unsealed.values ++ "\n"

def envLines (unsealed : Unsealed) : String :=
  EnvFile.printAll (unsealed.order.filterMap fun key =>
    (unsealed.values.get? key).map (key, ·))

end Unsealed

def unsealEntries
    (origin : String)
    (entries : EnvMap)
    (requested : List String)
    (decapsulator : Kem.Decapsulator) :
    Except Failure Unsealed :=
  let order := selection entries requested
  let absent := missing entries order
  if order.isEmpty then .ok ⟨[], .empty⟩
  else if !absent.isEmpty then .error (.missingKeys origin absent)
  else do
    let pairs ← unsealAll entries decapsulator order
    return ⟨order, EnvMap.ofList pairs⟩

/-- The plaintexts of the chosen entries of a source, opened with the key in a file. -/
def unsealSource (source : Source) (privateKeyPath : Path) (requested : List String) :
    Action Failure Unsealed := do
  let decapsulator ← loadPrivateKey privateKeyPath
  let entries ← source.entries
  Action.ofExcept (unsealEntries source.origin entries requested decapsulator)

end SealedEnv.Vault
