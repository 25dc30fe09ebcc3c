import SealedEnv.Kem.Encryption
import SealedEnv.Tape

/-!
Contract: key encapsulation with seeds of 64 bytes, public keys of 1184, ciphertexts of 1088 and
shared secrets of 32.

Owns:
- `generate`, `Encapsulator` and `Decapsulator`, with the checks of their bytes;
- implicit rejection: a ciphertext of another key gives an unrelated secret and no refusal.

Does not own: the files that keys are kept in.
-/

namespace SealedEnv.Kem

def seedLength : Nat := 64

def ciphertextLength : Nat := 1088

def sharedLength : Nat := 32

inductive Refusal where
  | keyGenerationFailed
  | publicKeyLength (length : Nat)
  /-- A coefficient of the public key is not below the modulus. -/
  | publicKeyNotCanonical
  | seedLength (length : Nat)
  | ciphertextLength (length : Nat)
deriving DecidableEq, Repr

def Refusal.message : Refusal → String
  | keyGenerationFailed => "key generation failed: Unknown Error: 3221225472"
  | publicKeyLength length => s!"expected {Kem.publicKeyLength} bytes, got {length}"
  | publicKeyNotCanonical => "encapsulation key is not canonically encoded"
  | seedLength length => s!"expected {Kem.seedLength}-byte seed, got {length} bytes"
  | ciphertextLength length =>
    s!"expected {Kem.ciphertextLength}-byte ciphertext, got {length} bytes"

/-- A public key whose bytes were checked. -/
structure Encapsulator where
  key : PublicKey
  bytes : Bytes
deriving DecidableEq

/-- Checks the bytes of a public key: they must be those that the key they denote is written
with. -/
def Encapsulator.ofBytes (bytes : Bytes) : Except Refusal Encapsulator :=
  if bytes.length ≠ publicKeyLength then .error (.publicKeyLength bytes.length)
  else
    let key := PublicKey.ofBytes bytes
    if key.toBytes = bytes then .ok ⟨key, bytes⟩ else .error .publicKeyNotCanonical

/-- The shared secret and the ciphertext of a message of thirty-two bytes. -/
def Encapsulator.encapsulateWith (encapsulator : Encapsulator) (message : Bytes) :
    Bytes × Bytes :=
  let digest := Keccak.digest512 (message ++ Keccak.digest256 encapsulator.bytes)
  (digest.take 32, encryptMessage encapsulator.key message (digest.drop 32))

/-- Draws a message and gives its shared secret, its ciphertext and what is left of the tape. -/
def Encapsulator.encapsulate (encapsulator : Encapsulator) (tape : Tape) :
    (Bytes × Bytes) × Tape :=
  let (message, rest) := tape.drawPadded 32
  (encapsulator.encapsulateWith message, rest)

/-- What a private seed expands to. -/
structure Decapsulator where
  secret : List Poly
  encapsulator : Encapsulator
  /-- What stands in for the message of a ciphertext that is not the one its message gives. -/
  fallback : Bytes
deriving DecidableEq

def expandSeed (seed : Bytes) : Decapsulator :=
  let (key, secret) := expandKey (seed.take 32)
  ⟨secret, ⟨key, key.toBytes⟩, seed.drop 32⟩

def Decapsulator.ofSeed (seed : Bytes) : Except Refusal Decapsulator :=
  if seed.length ≠ Kem.seedLength then .error (.seedLength seed.length)
  else .ok (expandSeed seed)

/-- The shared secret of a ciphertext of the right length. -/
def Decapsulator.sharedSecret (decapsulator : Decapsulator) (ciphertext : Bytes) : Bytes :=
  let message := decryptMessage decapsulator.secret ciphertext
  let (shared, again) := decapsulator.encapsulator.encapsulateWith message
  if again = ciphertext then shared
  else Keccak.stream256 sharedLength (decapsulator.fallback ++ ciphertext)

def Decapsulator.decapsulate (decapsulator : Decapsulator) (ciphertext : Bytes) :
    Except Refusal Bytes :=
  if ciphertext.length ≠ Kem.ciphertextLength then .error (.ciphertextLength ciphertext.length)
  else .ok (decapsulator.sharedSecret ciphertext)

/-- A fresh key pair in the form in which it is kept. -/
structure KeyPair where
  seed : Bytes
  publicKey : Bytes
deriving DecidableEq

def KeyPair.ofSeed (seed : Bytes) : KeyPair := ⟨seed, (expandSeed seed).encapsulator.bytes⟩

/-- Draws a seed and expands it, and gives what is left of the tape. -/
def generate (tape : Tape) : Except Refusal KeyPair × Tape :=
  match tape.draw? Kem.seedLength with
  | none => (.error .keyGenerationFailed, tape)
  | some (seed, rest) => (.ok (.ofSeed seed), rest)

/-- What is shown of a private seed: nothing. -/
def seedText : String := "PrivateSeed([REDACTED])"

/-- What is shown of a decapsulator: nothing. -/
def Decapsulator.text : String := "DecapsulationKey([REDACTED])"

end SealedEnv.Kem
