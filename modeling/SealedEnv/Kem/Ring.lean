/-!
Contract: polynomials of degree below 256 over the field of 3329 elements, and their transform.

Owns:
- `Coeff` and `Poly`, with addition and subtraction;
- the number-theoretic transform, its inverse, and the product of transformed polynomials.

Does not own: how polynomials are sampled or written.
-/

namespace SealedEnv.Kem

abbrev modulus : Nat := 3329

abbrev Coeff := Fin modulus

/-- The coefficients of a polynomial, the constant one first. -/
abbrev Poly := List Coeff

def degreeBound : Nat := 256

def zeroPoly : Poly := List.replicate degreeBound 0

def addPoly (left right : Poly) : Poly := List.zipWith (· + ·) left right

def subPoly (left right : Poly) : Poly := List.zipWith (· - ·) left right

def sumPoly (polys : List Poly) : Poly := polys.foldl addPoly zeroPoly

/-- The seven lowest bits of a number in reverse. -/
def reverseBits (n : Nat) : Nat :=
  (List.range 7).foldl (fun done i => 2 * done + (n.testBit i).toNat) 0

def power (base : Coeff) : Nat → Coeff
  | 0 => 1
  | n + 1 => base * power base n

/-- The element 17, a primitive 256th root of one. -/
def root : Coeff := 17

/-- The powers of the root by which the nodes of the transform twist. -/
def twists : Array Coeff := (Array.range 128).map fun node => power root (reverseBits node)

/-- The inverses of the twists. -/
def untwists : Array Coeff :=
  (Array.range 128).map fun node => power root (256 - reverseBits node)

/-- The factors that stand for the square of the indeterminate in the pairs of a transform. -/
def pairTwists : Array Coeff :=
  (Array.range 128).map fun pair => power root (2 * reverseBits pair + 1)

/-- The transform below a node: `level` more halvings, the halves at nodes `2 * node` and
`2 * node + 1`. -/
def transformAt (level node : Nat) (coeffs : List Coeff) : List Coeff :=
  match level with
  | 0 => coeffs
  | level + 1 =>
    let half := coeffs.length / 2
    let low := coeffs.take half
    let twisted := (coeffs.drop half).map (twists.getD node 0 * ·)
    transformAt level (2 * node) (List.zipWith (· + ·) low twisted) ++
      transformAt level (2 * node + 1) (List.zipWith (· - ·) low twisted)

/-- The transform of a polynomial: 128 pairs of coefficients. -/
def transform (poly : Poly) : Poly := transformAt 7 1 poly

/-- The inverse of the transform below a node, but for a factor of two for each halving. -/
def restoreAt (level node : Nat) (coeffs : List Coeff) : List Coeff :=
  match level with
  | 0 => coeffs
  | level + 1 =>
    let half := coeffs.length / 2
    let low := restoreAt level (2 * node) (coeffs.take half)
    let high := restoreAt level (2 * node + 1) (coeffs.drop half)
    List.zipWith (· + ·) low high ++
      (List.zipWith (· - ·) low high).map (untwists.getD node 0 * ·)

/-- The element 3303, the inverse of 128. -/
def halvingsInverse : Coeff := 3303

/-- The polynomial of a transform. -/
def restore (poly : Poly) : Poly := (restoreAt 7 1 poly).map (halvingsInverse * ·)

/-- The products of the pairs of two transforms, from pair number `pair` on. -/
def multiplyPairs (pair : Nat) : Poly → Poly → Poly
  | a :: b :: left, c :: d :: right =>
    (a * c + b * d * pairTwists.getD pair 0) :: (a * d + b * c) ::
      multiplyPairs (pair + 1) left right
  | _, _ => []

/-- The transform of the product of two polynomials, from their transforms. -/
def multiply (left right : Poly) : Poly := multiplyPairs 0 left right

/-- The sum of the products of two rows of transforms. -/
def dot (left right : List Poly) : Poly := sumPoly (List.zipWith multiply left right)

end SealedEnv.Kem
