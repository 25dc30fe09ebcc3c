import SealedEnv.Kem.Bits
import SealedEnv.Kem.Ring

/-!
Contract: polynomials as bytes, whole and compressed.

Owns:
- the coding of coefficients in twelve bits, whose decoding reduces what is too large;
- the coding with fewer bits, which rounds to the nearest multiple.

Does not own: keys and ciphertexts, which are rows of coded polynomials.
-/

namespace SealedEnv.Kem

/-- The coefficient that a number is congruent to. -/
def reduce (n : Nat) : Coeff := ⟨n % modulus, Nat.mod_lt n (by decide)⟩

def encodeCoeffs (coeffs : List Coeff) : Bytes := pack 12 (coeffs.map Fin.val)

/-- The coefficients of numbers of twelve bits, reduced where they are too large. -/
def decodeCoeffs (bytes : Bytes) : List Coeff := (unpack 12 bytes).map reduce

/-- A coefficient as the nearest of the multiples that `width` bits can name. -/
def compress (width : Nat) (coeff : Coeff) : Nat :=
  (coeff.val * Nat.pow 2 width * 2 + modulus) / (2 * modulus) % Nat.pow 2 width

/-- The coefficient nearest to a multiple. -/
def decompress (width n : Nat) : Coeff :=
  reduce ((n * modulus * 2 + Nat.pow 2 width) / (2 * Nat.pow 2 width))

def encodeCompressed (width : Nat) (poly : Poly) : Bytes := pack width (poly.map (compress width))

def decodeCompressed (width : Nat) (bytes : Bytes) : Poly :=
  (unpack width bytes).map (decompress width)

end SealedEnv.Kem
