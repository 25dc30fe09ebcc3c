import SealedEnv.Failure
import SealedEnv.Kem.Scheme
import SealedEnv.Store.World
import SealedEnv.Text.Blank

/-!
Contract: key files: one line of base64 each.

Owns:
- loading a public or a private key, with the order in which faults are found.

Does not own: writing key files.
-/

namespace SealedEnv.Vault

def keyText (text : String) : String := String.ofList (Text.trim text.toList)

def loadPublicKey (path : Path) : Action Failure Kem.Encapsulator := do
  let text ← Action.withCause (Failure.publicKeyFileUnreadable path.display) <|
    Action.ask fun store here => store.readText here path
  Action.ofExcept do
    let bytes ← (Base64.decode (keyText text)).mapError (.invalidPublicKeyBase64 path.display)
    (Kem.Encapsulator.ofBytes bytes).mapError fun refusal =>
      .invalidPublicKey path.display refusal.message

def loadPrivateKey (path : Path) : Action Failure Kem.Decapsulator := do
  let text ← Action.withCause (Failure.privateKeyFileUnreadable path.display) <|
    Action.ask fun store here => store.readText here path
  Action.ofExcept do
    let seed ← (Base64.decode (keyText text)).mapError (.invalidPrivateKeyBase64 path.display)
    (Kem.Decapsulator.ofSeed seed).mapError fun refusal =>
      .invalidPrivateKey path.display refusal.message

end SealedEnv.Vault
