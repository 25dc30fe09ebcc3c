import SealedEnv.Cipher.Blob
import SealedEnv.Envelope
import SealedEnv.Failure
import SealedEnv.Kem.Scheme

/-!
Contract: one sealed value.

Owns:
- `sealValue`, from a plaintext to its text form under a public key;
- `unsealValue`, back again under a private key, with the order in which faults are found.

Does not own: key files, or which values are chosen.
-/

namespace SealedEnv.Vault

/-- Encapsulates a fresh secret, encrypts a plaintext with it, and gives the text form and what is
left of the tape. -/
def sealValue (encapsulator : Kem.Encapsulator) (plaintext : Bytes) (tape : Tape) :
    Except Failure String × Tape :=
  let ((shared, capsule), tape) := encapsulator.encapsulate tape
  let (blob, tape) := Cipher.encrypt shared plaintext tape
  match blob with
  | .ok blob => (.ok (Envelope.build capsule blob), tape)
  | .error refusal => (.error (.encryptionFailed refusal.message), tape)

def notTextCause : String := "plaintext is not valid UTF-8"

/-- The plaintext of a stored value.  Every failure names the key, but that of a secret of the wrong
size, which would be no fault of the value. -/
def unsealValue (key stored : String) (decapsulator : Kem.Decapsulator) :
    Except Failure String := do
  if !Envelope.isSealed stored then throw (.valueNotSealed key)
  let segments ← (Envelope.parse stored).mapError fun refusal =>
    .malformedSealedValue key refusal.message
  let capsule ← (Base64.decode segments.capsule).mapError (.invalidCapsuleBase64 key)
  let blob ← (Base64.decode segments.blob).mapError (.invalidBlobBase64 key)
  let shared ← (decapsulator.decapsulate capsule).mapError fun refusal =>
    .decapsulationFailed key refusal.message
  if shared.length ≠ Kem.sharedLength then throw (.unexpectedSharedKeySize shared.length)
  let plaintext ← (Cipher.decrypt shared blob).mapError fun refusal =>
    .decryptionFailed key refusal.message
  match Utf8.decode? plaintext with
  | some text => return text
  | none => throw (.decryptionFailed key notTextCause)

end SealedEnv.Vault
