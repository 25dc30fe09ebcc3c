import SealedEnv.Exchange.Admission
import SealedEnv.Vault.Unseal

/-!
Contract: unsealing a request with a private key file at hand.

Owns:
- `direct`, which opens the sealed values of a request and passes over the others.

Does not own: the opening of one value.
-/

namespace SealedEnv.Exchange

/-- Opens every sealed value of a request with the key in a file. -/
def direct (privateKeyPath : Path) : Unsealer (StateM World) := fun request =>
  (do
    let unsealed ← Vault.unsealSource (.map request) privateKeyPath []
    return unsealed.values : Action Failure EnvMap)

end SealedEnv.Exchange
