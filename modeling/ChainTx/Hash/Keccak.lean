import ChainTx.Bytes

/-!
Contract: the hash Keccak-256.

Owns: the permutation of 25 lanes of 64 bits, padding with the domain bits `1` alone (byte 0x01, then
0x80 at the end of the last block), and the digest of 32 bytes at a rate of 136 bytes.
-/

set_option autoImplicit false

namespace ChainTx.Keccak

/-- Twenty-five lanes; the lane at column `x` and row `y` has index `x + 5 * y`. -/
abbrev State := Vector UInt64 25

/-- The lane at a column and a row, both taken modulo five. -/
def lane (state : State) (x y : Nat) : UInt64 :=
  state.get ⟨x % 5 + 5 * (y % 5), by omega⟩

def ofLanes (f : Nat → Nat → UInt64) : State :=
  Vector.ofFn fun index => f (index.val % 5) (index.val / 5)

def rotate (word : UInt64) (amount : Nat) : UInt64 :=
  if amount = 0 then word
  else (word <<< UInt64.ofNat amount) ||| (word >>> UInt64.ofNat (64 - amount))

def parity (state : State) (x : Nat) : UInt64 :=
  lane state x 0 ^^^ lane state x 1 ^^^ lane state x 2 ^^^ lane state x 3 ^^^ lane state x 4

/-- Adds to each lane the parities of two neighbouring columns. -/
def theta (state : State) : State :=
  let parities : Vector UInt64 5 := Vector.ofFn fun x => parity state x.val
  let mixed : Vector UInt64 5 := Vector.ofFn fun x =>
    parities.get ⟨(x.val + 4) % 5, by omega⟩
      ^^^ rotate (parities.get ⟨(x.val + 1) % 5, by omega⟩) 1
  ofLanes fun x y => lane state x y ^^^ mixed.get ⟨x % 5, by omega⟩

/-- The rotation of each lane, by index. -/
def rotations : List Nat :=
  [0, 1, 62, 28, 27, 36, 44, 6, 55, 20, 3, 10, 43, 25, 39, 41, 45, 15, 21, 8, 18, 2, 61, 56, 14]

/-- Rotates the lanes and moves them to their new places. -/
def rhoPi (state : State) : State :=
  let rotated : State := Vector.ofFn fun index =>
    rotate state[index.val] (rotations.getD index.val 0)
  ofLanes fun x y => lane rotated (x + 3 * y) x

/-- Mixes each row by a function of degree two. -/
def chi (state : State) : State :=
  ofLanes fun x y =>
    lane state x y ^^^ ((lane state (x + 1) y ^^^ 0xFFFFFFFFFFFFFFFF) &&& lane state (x + 2) y)

/-- Adds a round constant to the first lane. -/
def iota (constant : UInt64) (state : State) : State :=
  ofLanes fun x y => if x = 0 ∧ y = 0 then lane state x y ^^^ constant else lane state x y

/-- The constants of the 24 rounds. -/
def roundConstants : List UInt64 :=
  [0x0000000000000001, 0x0000000000008082, 0x800000000000808A, 0x8000000080008000,
    0x000000000000808B, 0x0000000080000001, 0x8000000080008081, 0x8000000000008009,
    0x000000000000008A, 0x0000000000000088, 0x0000000080008009, 0x000000008000000A,
    0x000000008000808B, 0x800000000000008B, 0x8000000000008089, 0x8000000000008003,
    0x8000000000008002, 0x8000000000000080, 0x000000000000800A, 0x800000008000000A,
    0x8000000080008081, 0x8000000000008080, 0x0000000080000001, 0x8000000080008008]

def permute (state : State) : State :=
  roundConstants.foldl (fun state constant => iota constant (chi (rhoPi (theta state)))) state

/-- The word of eight bytes, least significant first. -/
def wordOf (bytes : Bytes) : UInt64 :=
  bytes.foldr (fun byte word => (word <<< 8) ||| byte.toUInt64) 0

/-- The bytes of a word, least significant first. -/
def bytesOf (word : UInt64) : Bytes :=
  (List.range 8).map fun index => (word >>> UInt64.ofNat (8 * index)).toUInt8

def rate : Nat := 136

/-- The bytes that fill up the last block. -/
def padding (length : Nat) : Bytes :=
  let missing := rate - length % rate
  if missing = 1 then [0x81] else 0x01 :: List.replicate (missing - 2) 0 ++ [0x80]

def absorb (state : State) (block : Bytes) : State :=
  let words : Vector UInt64 25 := Vector.ofFn fun index =>
    wordOf ((block.drop (8 * index.val)).take 8)
  permute (Vector.ofFn fun index => state[index.val] ^^^ words[index.val])

def absorbBlocks : Nat → State → Bytes → State
  | 0, state, _ => state
  | count + 1, state, bytes =>
      absorbBlocks count (absorb state (bytes.take rate)) (bytes.drop rate)

/-- The digest of 32 bytes. -/
def hash (message : Bytes) : Bytes :=
  let state := absorbBlocks (message.length / rate + 1) (Vector.replicate 25 0)
    (message ++ padding message.length)
  bytesOf (lane state 0 0) ++ bytesOf (lane state 1 0) ++ bytesOf (lane state 2 0)
    ++ bytesOf (lane state 3 0)

end ChainTx.Keccak
