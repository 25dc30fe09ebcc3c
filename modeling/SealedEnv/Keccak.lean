import SealedEnv.Text.Utf8

/-!
Contract: the Keccak permutation on 1600 bits and the hash functions built on it.

Owns:
- the permutation, as twenty-four rounds on twenty-five lanes;
- the sponge, with fixed digests of 32 and 64 bytes and two streams of any length.

Does not own: which of them derives which key.
-/

namespace SealedEnv.Keccak

abbrev Lanes := Array UInt64

def lane (lanes : Lanes) (i : Nat) : UInt64 := lanes.getD i 0

def rotate (word : UInt64) (count : Nat) : UInt64 :=
  if count = 0 then word
  else (word <<< UInt64.ofNat count) ||| (word >>> UInt64.ofNat (64 - count))

/-- The lanes with the parities of two columns added to each. -/
def mixParities (lanes : Lanes) : Lanes :=
  let parities := (Array.range 5).map fun x =>
    lane lanes x ^^^ lane lanes (x + 5) ^^^ lane lanes (x + 10) ^^^ lane lanes (x + 15) ^^^
      lane lanes (x + 20)
  let added := (Array.range 5).map fun x =>
    lane parities ((x + 4) % 5) ^^^ rotate (lane parities ((x + 1) % 5)) 1
  (Array.range 25).map fun i => lane lanes i ^^^ lane added (i % 5)

def moves : Array (Nat × Nat) :=
  #[(0, 0), (6, 44), (12, 43), (18, 21), (24, 14),
    (3, 28), (9, 20), (10, 3), (16, 45), (22, 61),
    (1, 1), (7, 6), (13, 25), (19, 8), (20, 18),
    (4, 27), (5, 36), (11, 10), (17, 15), (23, 56),
    (2, 62), (8, 55), (14, 39), (15, 41), (21, 2)]

def move (lanes : Lanes) : Lanes :=
  moves.map fun (source, count) => rotate (lane lanes source) count

/-- The lanes with each one combined with the two after it in its row. -/
def combineRows (lanes : Lanes) : Lanes :=
  (Array.range 25).map fun i =>
    let row := i / 5 * 5
    lane lanes i ^^^
      (~~~lane lanes (row + (i + 1) % 5) &&& lane lanes (row + (i + 2) % 5))

def roundConstants : List UInt64 :=
  [0x0000000000000001, 0x0000000000008082, 0x800000000000808a, 0x8000000080008000,
    0x000000000000808b, 0x0000000080000001, 0x8000000080008081, 0x8000000000008009,
    0x000000000000008a, 0x0000000000000088, 0x0000000080008009, 0x000000008000000a,
    0x000000008000808b, 0x800000000000008b, 0x8000000000008089, 0x8000000000008003,
    0x8000000000008002, 0x8000000000000080, 0x000000000000800a, 0x800000008000000a,
    0x8000000080008081, 0x8000000000008080, 0x0000000080000001, 0x8000000080008008]

def round (lanes : Lanes) (constant : UInt64) : Lanes :=
  (combineRows (move (mixParities lanes))).modify 0 (· ^^^ constant)

def permute (lanes : Lanes) : Lanes := roundConstants.foldl round lanes

/-! ## The sponge -/

/-- The lane of eight bytes, the least significant one first. -/
def bytesLane (bytes : Bytes) : UInt64 :=
  bytes.foldr (fun byte word => (word <<< 8) ||| byte.toUInt64) 0

def laneBytes (word : UInt64) : Bytes :=
  (List.range 8).map fun i => (word >>> UInt64.ofNat (8 * i)).toUInt8

/-- The lanes with a block added and permuted. -/
def absorb (lanes : Lanes) (block : Bytes) : Lanes :=
  permute <| (Array.range 25).map fun i =>
    lane lanes i ^^^ bytesLane ((block.drop (8 * i)).take 8)

/-- The lanes after the blocks of `rate` bytes of a message; `count` bounds their number. -/
def absorbAll (rate : Nat) : Nat → Lanes → Bytes → Lanes
  | 0, lanes, _ => lanes
  | count + 1, lanes, message =>
    if message.isEmpty then lanes
    else absorbAll rate count (absorb lanes (message.take rate)) (message.drop rate)

/-- A message filled up to whole blocks: the marks of the function, zeros, and a last bit. -/
def padded (rate : Nat) (marks : UInt8) (message : Bytes) : Bytes :=
  let free := rate - message.length % rate
  if free = 1 then message ++ [marks ||| 0x80]
  else message ++ marks :: List.replicate (free - 2) 0 ++ [0x80]

/-- The lanes after a whole message. -/
def absorbed (rate : Nat) (marks : UInt8) (message : Bytes) : Lanes :=
  absorbAll rate (message.length / rate + 1) (Array.replicate 25 0) (padded rate marks message)

/-- The first `rate` bytes of the lanes. -/
def output (rate : Nat) (lanes : Lanes) : Bytes := (lanes.toList.flatMap laneBytes).take rate

/-- The first `count` blocks of output. -/
def squeeze (rate : Nat) : Nat → Lanes → Bytes
  | 0, _ => []
  | count + 1, lanes => output rate lanes ++ squeeze rate count (permute lanes)

/-- The first `length` bytes that a sponge gives for a message. -/
def sponge (rate : Nat) (marks : UInt8) (length : Nat) (message : Bytes) : Bytes :=
  (squeeze rate ((length + rate - 1) / rate) (absorbed rate marks message)).take length

def digest256 (message : Bytes) : Bytes := sponge 136 0x06 32 message

def digest512 (message : Bytes) : Bytes := sponge 72 0x06 64 message

def stream256 (length : Nat) (message : Bytes) : Bytes := sponge 136 0x1f length message

/-- The lanes of the stream of strength 128 for a message. -/
def stream128 (message : Bytes) : Lanes := absorbed 168 0x1f message

end SealedEnv.Keccak
