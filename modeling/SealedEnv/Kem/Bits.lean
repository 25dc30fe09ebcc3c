import SealedEnv.Text.Utf8

/-!
Contract: numbers of a fixed width packed into bytes, the least significant bit first.

Owns:
- `pack` and `unpack`, for any width.

Does not own: which numbers are canonical.
-/

namespace SealedEnv.Kem

/-- The `width` lowest bits of a number, the least significant one first. -/
def bitsOf (width n : Nat) : List Bool := (List.range width).map n.testBit

/-- The number with the given bits, the least significant one first. -/
def ofBits (bits : List Bool) : Nat := bits.foldr (fun bit n => 2 * n + bit.toNat) 0

/-- The first `count` stretches of `width` members. -/
def firstStretches {α : Type} (width : Nat) : Nat → List α → List (List α)
  | 0, _ => []
  | count + 1, members =>
    members.take width :: firstStretches width count (members.drop width)

/-- Successive stretches of `width` members; what is too short for one more is dropped. -/
def stretches {α : Type} (width : Nat) (members : List α) : List (List α) :=
  firstStretches width (members.length / width) members

/-- Numbers of `width` bits as bytes. -/
def pack (width : Nat) (numbers : List Nat) : Bytes :=
  (stretches 8 (numbers.flatMap (bitsOf width))).map fun bits => UInt8.ofNat (ofBits bits)

/-- Bytes as numbers of `width` bits. -/
def unpack (width : Nat) (bytes : Bytes) : List Nat :=
  (stretches width (bytes.flatMap fun byte => bitsOf 8 byte.toNat)).map ofBits

end SealedEnv.Kem
