import SealedEnv.Keccak
import SealedEnv.Kem.Codec

/-!
Contract: polynomials drawn from seeds.

Owns:
- uniform transforms, drawn by rejection from a stream of numbers of twelve bits;
- small polynomials with coefficients from -2 to 2.

Does not own: the order in which seeds are used.
-/

namespace SealedEnv.Kem

/-- The coefficients among the two numbers of twelve bits in three bytes. -/
def candidates (bytes : Bytes) : List Coeff :=
  (unpack 12 bytes).filterMap fun n => if small : n < modulus then some ⟨n, small⟩ else none

/-- Draws coefficients from the blocks of a stream until there are enough.  A block holds about 91
of them, so `count` blocks are far more than any stream needs; what would still be missing is
zero. -/
def drawUniform : Nat → Keccak.Lanes → List Coeff → Poly
  | 0, _, drawn => (drawn ++ zeroPoly).take degreeBound
  | count + 1, lanes, drawn =>
    if degreeBound ≤ drawn.length then drawn.take degreeBound
    else drawUniform count (Keccak.permute lanes)
      (drawn ++ candidates (Keccak.output 168 lanes))

def uniform (seed : Bytes) (column row : Nat) : Poly :=
  drawUniform 64 (Keccak.stream128 (seed ++ [UInt8.ofNat column, UInt8.ofNat row])) []

def ones (bits : List Bool) : Nat := bits.count true

/-- The coefficient of four bits: the ones in the first two less those in the last two. -/
def smallCoeff (bits : List Bool) : Coeff :=
  reduce (ones (bits.take 2)) - reduce (ones (bits.drop 2))

def small (seed : Bytes) (number : Nat) : Poly :=
  let bytes := Keccak.stream256 128 (seed ++ [UInt8.ofNat number])
  (stretches 4 (bytes.flatMap fun byte => bitsOf 8 byte.toNat)).map smallCoeff

end SealedEnv.Kem
