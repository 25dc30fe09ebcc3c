import SealedEnv.Kem.Sampling

/-!
Contract: the public-key encryption of thirty-two bytes under the module lattice of rank three.

Owns:
- `PublicKey`, with its bytes; the secret rows; encryption and decryption.

Does not own: protection against chosen ciphertexts, which the encapsulation adds.
-/

namespace SealedEnv.Kem

def rank : Nat := 3

/-- A public key: the transforms of its row and the seed of its matrix. -/
structure PublicKey where
  row : List Poly
  seed : Bytes
deriving DecidableEq

def rowLength : Nat := 1152

def publicKeyLength : Nat := 1184

def PublicKey.toBytes (key : PublicKey) : Bytes :=
  encodeCoeffs key.row.flatten ++ key.seed

/-- The public key of bytes; coefficients that are too large are reduced. -/
def PublicKey.ofBytes (bytes : Bytes) : PublicKey :=
  ⟨stretches degreeBound (decodeCoeffs (bytes.take rowLength)), bytes.drop rowLength⟩

def matrix (seed : Bytes) : List (List Poly) :=
  (List.range rank).map fun row => (List.range rank).map fun column => uniform seed column row

def matrixColumns (seed : Bytes) : List (List Poly) :=
  (List.range rank).map fun column => (List.range rank).map fun row => uniform seed column row

/-- The small polynomials of a seed with the numbers from `first` on. -/
def smallRow (seed : Bytes) (first : Nat) : List Poly :=
  (List.range rank).map fun i => small seed (first + i)

def expandKey (seed : Bytes) : PublicKey × List Poly :=
  let digest := Keccak.digest512 (seed ++ [UInt8.ofNat rank])
  let matrixSeed := digest.take 32
  let noiseSeed := digest.drop 32
  let secret := (smallRow noiseSeed 0).map transform
  let noise := (smallRow noiseSeed rank).map transform
  let row := List.zipWith addPoly ((matrix matrixSeed).map (dot · secret)) noise
  (⟨row, matrixSeed⟩, secret)

def rowWidth : Nat := 10

def valueWidth : Nat := 4

/-- The bytes of each polynomial in the first part of a ciphertext. -/
def rowStride : Nat := 320

/-- A message as a polynomial: a coefficient for each bit. -/
def messagePoly (message : Bytes) : Poly := decodeCompressed 1 message

/-- The encryption of a message of thirty-two bytes, with the randomness of a seed. -/
def encryptMessage (key : PublicKey) (message seed : Bytes) : Bytes :=
  let blind := (smallRow seed 0).map transform
  let rowNoise := smallRow seed rank
  let valueNoise := small seed (2 * rank)
  let row := List.zipWith addPoly
    ((matrixColumns key.seed).map fun column => restore (dot column blind)) rowNoise
  let value := addPoly (addPoly (restore (dot key.row blind)) valueNoise) (messagePoly message)
  row.flatMap (encodeCompressed rowWidth) ++ encodeCompressed valueWidth value

def decryptMessage (secret : List Poly) (ciphertext : Bytes) : Bytes :=
  let row := (stretches rowStride (ciphertext.take (rank * rowStride))).map
    (decodeCompressed rowWidth)
  let value := decodeCompressed valueWidth (ciphertext.drop (rank * rowStride))
  encodeCompressed 1 (subPoly value (restore (dot secret (row.map transform))))

end SealedEnv.Kem
