import SealedEnv.Cipher.Counter
import SealedEnv.Tape

/-!
Contract: authenticated encryption of one byte string, as a blob of nonce (12 bytes), ciphertext and
tag (16 bytes), without associated data.

Owns:
- `encrypt`, which draws a fresh nonce, and `decrypt`;
- the causes of a refusal, in the order in which they are looked for.

Does not own: where keys come from.
-/

namespace SealedEnv.Cipher

def keyLength : Nat := 32

def nonceLength : Nat := 12

def tagLength : Nat := 16

/-- The greatest number of bytes that one nonce may encrypt. -/
def plaintextLimit : Nat := Nat.pow 2 36

inductive Refusal where
  | invalidKeySize (size : Nat)
  | blobTooShort (size : Nat)
  /-- The tag does not fit; damage and forgery are not told apart. -/
  | authenticationFailed
  | randomSourceFailed
  | encryptionFailed
deriving DecidableEq, Repr

def Refusal.message : Refusal → String
  | invalidKeySize size => s!"invalid key size: expected {keyLength} bytes, got {size}"
  | blobTooShort size => s!"ciphertext blob too short: {size} bytes"
  | authenticationFailed => "message authentication failed"
  | randomSourceFailed => "random source unavailable"
  | encryptionFailed => "aead encryption failed"

def ofKey (key : Bytes) : Bytes → Bytes :=
  let keys := roundKeys key
  encryptBlock keys

/-- The ciphertext and tag of a plaintext under a key and a nonce. -/
def sealWith (key nonce plaintext : Bytes) : Bytes :=
  let cipher := ofKey key
  let ciphertext := addKeystream cipher nonce plaintext
  ciphertext ++ tag cipher nonce ciphertext

/-- The plaintext of a ciphertext and tag under a key and a nonce, if the tag fits. -/
def openWith? (key nonce body : Bytes) : Option Bytes :=
  if body.length < tagLength || plaintextLimit + tagLength < body.length then none
  else
    let cipher := ofKey key
    let ciphertext := body.take (body.length - tagLength)
    if tag cipher nonce ciphertext = body.drop (body.length - tagLength) then
      some (addKeystream cipher nonce ciphertext)
    else none

/-- Encrypts a plaintext under a fresh nonce, and gives what is left of the tape. -/
def encrypt (key plaintext : Bytes) (tape : Tape) : Except Refusal Bytes × Tape :=
  if key.length ≠ keyLength then (.error (.invalidKeySize key.length), tape)
  else match tape.draw? nonceLength with
    | none => (.error .randomSourceFailed, tape)
    | some (nonce, rest) =>
      if plaintextLimit < plaintext.length then (.error .encryptionFailed, rest)
      else (.ok (nonce ++ sealWith key nonce plaintext), rest)

def decrypt (key blob : Bytes) : Except Refusal Bytes :=
  if key.length ≠ keyLength then .error (.invalidKeySize key.length)
  else if blob.length < nonceLength then .error (.blobTooShort blob.length)
  else match openWith? key (blob.take nonceLength) (blob.drop nonceLength) with
    | some plaintext => .ok plaintext
    | none => .error .authenticationFailed

end SealedEnv.Cipher
