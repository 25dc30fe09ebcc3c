import SealedEnv.Failure
import SealedEnv.Kem.Scheme
import SealedEnv.Store.AtomicWrite

/-!
Contract: making a key pair.

Owns:
- `makeKeyPair`, which stores both halves or, where the second one fails, takes the first one away;
- the summary of what was stored.

Does not own: reading key files.
-/

namespace SealedEnv.Vault

def privateKeyMode : Nat := 0o600

def publicKeyMode : Nat := 0o644

def keyLine (key : Bytes) : Bytes := Utf8.encode (Base64.encode key ++ "\n")

/-- What is said of a stored key pair: the paths from the root, and the public key alone. -/
def summary (here privatePath publicPath : Path) (publicKey : Bytes) : String :=
  s!"Wrote private key to {(Path.absolute here privatePath).display} (mode 0600)\n" ++
    s!"Wrote public key to {(Path.absolute here publicPath).display} (mode 0644)\n\n" ++
    s!"PUBLIC (base64):\n{Base64.encode publicKey}\n"

/-- Draws a key pair and stores its halves.  If the public half cannot be stored, the private one
is removed, where its path still leads to it and the system lets it go. -/
def makeKeyPair (privatePath publicPath : Path) : Action Failure String := do
  let pair ← Action.draw fun tape =>
    ((Kem.generate tape).1.mapError fun refusal => Failure.keyGenerationFailed refusal.message,
      (Kem.generate tape).2)
  Action.withCause (Failure.privateKeyWriteFailed privatePath.display) <|
    writeAtomic privatePath (keyLine pair.seed) privateKeyMode
  try
    Action.withCause (Failure.publicKeyWriteFailed publicPath.display) <|
      writeAtomic publicPath (keyLine pair.publicKey) publicKeyMode
  catch failure =>
    Action.discardAt privatePath
    throw failure
  let world ← get
  return summary world.here.path privatePath publicPath pair.publicKey

end SealedEnv.Vault
