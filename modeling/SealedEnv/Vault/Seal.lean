import SealedEnv.EnvFile.Storage
import SealedEnv.KeyName
import SealedEnv.Vault.KeyFile
import SealedEnv.Vault.Value

/-!
Contract: sealing the standard input into an env file.

Owns:
- `sealInput`, which asks for a plaintext only if it can be sealed.

Does not own: the form of a sealed value.
-/

namespace SealedEnv.Vault

/-- Seals the standard input under a public key and sets it as the value of a key. -/
def sealInput (publicKeyPath out : Path) (key : String) : Action Failure String := do
  if !isStoredKey key then throw (.invalidKeyName key)
  let encapsulator ← loadPublicKey publicKeyPath
  let plaintext ← Action.withCause Failure.plaintextUnreadable Action.readInput
  let value ← Action.draw (sealValue encapsulator plaintext)
  Action.withCause (Failure.envFileUpdateFailed out.display) <| EnvFile.setKey out key value
  return s!"Wrote {key} to {out.display}"

end SealedEnv.Vault
