import SealedEnv.Cipher.Block

/-!
Contract: counter mode with an authentication tag over the ciphertext.

Owns:
- the hash in the field of 2 to the 128 elements;
- the key stream and the tag of a nonce of twelve bytes, for any block cipher.

Does not own: how nonce, ciphertext and tag are laid out.
-/

namespace SealedEnv.Cipher

/-- A block as an element of the field; the first bit of the first byte is the most significant. -/
abbrev Element := BitVec 128

/-- The element of at most sixteen bytes, filled up with zeros. -/
def element (block : Bytes) : Element :=
  BitVec.ofNat 128 <|
    (block ++ List.replicate (16 - block.length) 0).foldl
      (fun n (byte : UInt8) => n * 256 + byte.toNat) 0

def elementBytes (e : Element) : Bytes :=
  (List.range 16).map fun i => UInt8.ofNat (e.toNat >>> (8 * (15 - i)))

/-- An element times the indeterminate. -/
def shifted (e : Element) : Element :=
  if e.getLsbD 0 then (e >>> 1) ^^^ 0xe1000000000000000000000000000000#128 else e >>> 1

def product (left right : Element) : Element :=
  ((List.range 128).foldl (fun (sum, power) i =>
    (if left.getMsbD i then sum ^^^ power else sum, shifted power)) (0#128, right)).1

/-- The hash of blocks of sixteen bytes, the last one filled up, going on from `sum`; `count` bounds
the number of blocks. -/
def hashBlocks (key : Element) : Nat → Element → Bytes → Element
  | 0, sum, _ => sum
  | count + 1, sum, data =>
    if data.isEmpty then sum
    else hashBlocks key count (product (sum ^^^ element (data.take 16)) key) (data.drop 16)

def blockCount (length : Nat) : Nat := (length + 15) / 16

/-- The hash of a ciphertext and of its length in bits. -/
def hash (key : Element) (ciphertext : Bytes) : Element :=
  let sum := hashBlocks key (blockCount ciphertext.length) 0 ciphertext
  product (sum ^^^ BitVec.ofNat 128 (8 * ciphertext.length)) key

def counterBlock (nonce : Bytes) (counter : Nat) : Bytes :=
  nonce ++ wordBytes (UInt32.ofNat counter)

/-- The first `length` bytes or a few more of the key stream of a nonce; its counter starts at
two. -/
def keystream (cipher : Bytes → Bytes) (nonce : Bytes) (length : Nat) : Bytes :=
  (List.range (blockCount length)).flatMap fun i => cipher (counterBlock nonce (i + 2))

def addKeystream (cipher : Bytes → Bytes) (nonce text : Bytes) : Bytes :=
  List.zipWith (· ^^^ ·) text (keystream cipher nonce text.length)

def tag (cipher : Bytes → Bytes) (nonce ciphertext : Bytes) : Bytes :=
  let key := element (cipher (List.replicate 16 0))
  List.zipWith (· ^^^ ·)
    (elementBytes (hash key ciphertext)) (cipher (counterBlock nonce 1))

end SealedEnv.Cipher
