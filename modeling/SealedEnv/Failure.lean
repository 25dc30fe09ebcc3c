import SealedEnv.Base64
import SealedEnv.Span
import SealedEnv.Store.IoError

/-!
Contract: every failure that sealing, unsealing and request handling report.

Owns:
- `Failure`, with the context of each cause;
- the message, the exit code and the reply status of a failure.

Does not own: the failures of starting a target command.
-/

namespace SealedEnv

/-- A failure and its context.  Messages name keys and paths, never plaintexts or key bytes. -/
inductive Failure where
  | keyGenerationFailed (cause : String)
  | privateKeyWriteFailed (path : String) (source : IoError)
  | publicKeyWriteFailed (path : String) (source : IoError)
  | plaintextUnreadable (source : IoError)
  | publicKeyFileUnreadable (path : String) (source : IoError)
  | invalidPublicKeyBase64 (path : String) (source : Base64.DecodeError)
  | invalidPublicKey (path : String) (cause : String)
  | unexpectedSharedKeySize (size : Nat)
  | encryptionFailed (cause : String)
  | envFileUpdateFailed (path : String) (source : IoError)
  | privateKeyFileUnreadable (path : String) (source : IoError)
  | invalidPrivateKeyBase64 (path : String) (source : Base64.DecodeError)
  | invalidPrivateKey (path : String) (cause : String)
  | envFileUnreadable (path : String) (source : IoError)
  | missingKeys (origin : String) (keys : List String)
  | valueNotSealed (key : String)
  | malformedSealedValue (key : String) (cause : String)
  | invalidCapsuleBase64 (key : String) (source : Base64.DecodeError)
  | invalidBlobBase64 (key : String) (source : Base64.DecodeError)
  | decapsulationFailed (key : String) (cause : String)
  | decryptionFailed (key : String) (cause : String)
  | invalidJson (cause : String)
  | invalidKeyName (key : String)
  | unexpectedKeysReturned
  | noAcceptableEntries
  | tempDirFailed (cause : String)
  | unsealTaskFailed (cause : String)
  | subprocessSpawnFailed (source : IoError)
  | subprocessTimeout (limit : Span)
  /-- The code is absent when a signal ended the subprocess. -/
  | subprocessFailed (code : Option Int) (elapsed : Span)
  | subprocessInvalidJson (elapsed : Span)
deriving DecidableEq

namespace Failure

/-- The exit code of a subprocess, or the word for a signal. -/
def exitText : Option Int → String
  | some code => toString code
  | none => "signal"

def message : Failure → String
  | keyGenerationFailed cause => s!"failed to generate key: {cause}"
  | privateKeyWriteFailed path source => s!"failed to write private key {path}: {source.message}"
  | publicKeyWriteFailed path source => s!"failed to write public key {path}: {source.message}"
  | plaintextUnreadable source => s!"failed to read plaintext: {source.message}"
  | publicKeyFileUnreadable path source =>
    s!"failed to read public key file {path}: {source.message}"
  | invalidPublicKeyBase64 path source => s!"invalid base64 public key in {path}: {source.message}"
  | invalidPublicKey path cause => s!"invalid public key in {path}: {cause}"
  | unexpectedSharedKeySize size => s!"unexpected shared key size: {size}"
  | encryptionFailed cause => s!"encryption failed: {cause}"
  | envFileUpdateFailed path source => s!"failed to update env file {path}: {source.message}"
  | privateKeyFileUnreadable path source =>
    s!"failed to read private key file {path}: {source.message}"
  | invalidPrivateKeyBase64 path source =>
    s!"invalid base64 private key in {path}: {source.message}"
  | invalidPrivateKey path cause => s!"invalid private key in {path}: {cause}"
  | envFileUnreadable path source => s!"failed to read env file {path}: {source.message}"
  | missingKeys origin keys =>
    "missing keys in " ++ origin ++ ": " ++ ", ".intercalate keys
  | valueNotSealed key => s!"value for {key} does not appear to be sealed (missing prefix)"
  | malformedSealedValue key cause => s!"sealed value for {key} malformed: {cause}"
  | invalidCapsuleBase64 key source =>
    s!"invalid base64 mlkem ciphertext for {key}: {source.message}"
  | invalidBlobBase64 key source => s!"invalid base64 gcm blob for {key}: {source.message}"
  | decapsulationFailed key cause => s!"decapsulation failed for {key}: {cause}"
  | decryptionFailed key cause => s!"decryption failed for {key}: {cause}"
  | invalidJson cause => s!"invalid JSON: {cause}"
  | invalidKeyName key => s!"invalid key name: {key}"
  | unexpectedKeysReturned => "decryption backend returned unexpected keys"
  | noAcceptableEntries => "decryption produced no acceptable env entries"
  | tempDirFailed cause => s!"failed to prepare temporary env directory: {cause}"
  | unsealTaskFailed cause => s!"unseal task failed: {cause}"
  | subprocessSpawnFailed source => s!"failed to run subprocess: {source.message}"
  | subprocessTimeout limit => s!"subprocess timed out after {limit.text}"
  | subprocessFailed code elapsed =>
    s!"subprocess failed (exit {exitText code}) after {elapsed.text}"
  | subprocessInvalidJson elapsed =>
    s!"subprocess produced invalid JSON after {elapsed.text}"

/-- The exit code of a command that ends with a failure: 2 where the caller must mend the request,
else 1. -/
def exitCode : Failure → Nat
  | missingKeys .. | invalidKeyName .. => 2
  | _ => 1

/-- The status of a reply that reports a failure: 400 for a bad request, 504 for a late subprocess,
502 for what came from elsewhere and 500 for what is wrong on this side. -/
def status : Failure → Nat
  | invalidJson .. | invalidKeyName .. | missingKeys .. => 400
  | subprocessTimeout .. => 504
  | valueNotSealed .. | malformedSealedValue .. | invalidCapsuleBase64 .. | invalidBlobBase64 ..
  | decapsulationFailed .. | decryptionFailed .. | unexpectedSharedKeySize ..
  | unexpectedKeysReturned | noAcceptableEntries | subprocessFailed ..
  | subprocessInvalidJson .. => 502
  | privateKeyFileUnreadable .. | invalidPrivateKeyBase64 .. | invalidPrivateKey ..
  | tempDirFailed .. | unsealTaskFailed .. | subprocessSpawnFailed .. | keyGenerationFailed ..
  | privateKeyWriteFailed .. | publicKeyWriteFailed .. | plaintextUnreadable ..
  | publicKeyFileUnreadable .. | invalidPublicKeyBase64 .. | invalidPublicKey ..
  | encryptionFailed .. | envFileUpdateFailed .. | envFileUnreadable .. => 500

end Failure

end SealedEnv
