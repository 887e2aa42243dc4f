import ChainTx.Bytes

/-!
Contract: the hash SHA-256 and the message authentication code HMAC over it.

Owns: padding, message schedule, compression and digest, and the keyed code with blocks of 64 bytes.
-/

set_option autoImplicit false

namespace ChainTx.Sha256

/-- The eight words of a chaining state. -/
structure State where
  a : UInt32
  b : UInt32
  c : UInt32
  d : UInt32
  e : UInt32
  f : UInt32
  g : UInt32
  h : UInt32
deriving DecidableEq, Repr

/-- The state before the first block. -/
def initialState : State :=
  ⟨0x6A09E667, 0xBB67AE85, 0x3C6EF372, 0xA54FF53A, 0x510E527F, 0x9B05688C, 0x1F83D9AB, 0x5BE0CD19⟩

/-- The constants of the 64 rounds. -/
def roundConstants : List UInt32 :=
  [0x428A2F98, 0x71374491, 0xB5C0FBCF, 0xE9B5DBA5, 0x3956C25B, 0x59F111F1, 0x923F82A4, 0xAB1C5ED5,
    0xD807AA98, 0x12835B01, 0x243185BE, 0x550C7DC3, 0x72BE5D74, 0x80DEB1FE, 0x9BDC06A7, 0xC19BF174,
    0xE49B69C1, 0xEFBE4786, 0x0FC19DC6, 0x240CA1CC, 0x2DE92C6F, 0x4A7484AA, 0x5CB0A9DC, 0x76F988DA,
    0x983E5152, 0xA831C66D, 0xB00327C8, 0xBF597FC7, 0xC6E00BF3, 0xD5A79147, 0x06CA6351, 0x14292967,
    0x27B70A85, 0x2E1B2138, 0x4D2C6DFC, 0x53380D13, 0x650A7354, 0x766A0ABB, 0x81C2C92E, 0x92722C85,
    0xA2BFE8A1, 0xA81A664B, 0xC24B8B70, 0xC76C51A3, 0xD192E819, 0xD6990624, 0xF40E3585, 0x106AA070,
    0x19A4C116, 0x1E376C08, 0x2748774C, 0x34B0BCB5, 0x391C0CB3, 0x4ED8AA4A, 0x5B9CCA4F, 0x682E6FF3,
    0x748F82EE, 0x78A5636F, 0x84C87814, 0x8CC70208, 0x90BEFFFA, 0xA4506CEB, 0xBEF9A3F7, 0xC67178F2]

def rotate (word : UInt32) (amount : UInt32) : UInt32 :=
  (word >>> amount) ||| (word <<< (32 - amount))

/-- The words of a block, most significant byte first. -/
def blockWords : Bytes → List UInt32
  | a :: b :: c :: d :: rest =>
      ((a.toUInt32 <<< 24) ||| (b.toUInt32 <<< 16) ||| (c.toUInt32 <<< 8) ||| d.toUInt32)
        :: blockWords rest
  | _ => []

/-- The word that follows the last sixteen, given the newest first. -/
def nextWord (recent : List UInt32) : UInt32 :=
  let word (back : Nat) : UInt32 := recent.getD (back - 1) 0
  let low := word 15
  let high := word 2
  let sigma0 := rotate low 7 ^^^ rotate low 18 ^^^ (low >>> 3)
  let sigma1 := rotate high 17 ^^^ rotate high 19 ^^^ (high >>> 10)
  word 16 + sigma0 + word 7 + sigma1

/-- Adds words to a schedule, the newest first. -/
def extend : Nat → List UInt32 → List UInt32
  | 0, schedule => schedule
  | count + 1, schedule => extend count (nextWord schedule :: schedule)

/-- One round with its constant and its schedule word. -/
def round (state : State) (constant word : UInt32) : State :=
  let sum1 := rotate state.e 6 ^^^ rotate state.e 11 ^^^ rotate state.e 25
  let choice := (state.e &&& state.f) ^^^ ((state.e ^^^ 0xFFFFFFFF) &&& state.g)
  let first := state.h + sum1 + choice + constant + word
  let sum0 := rotate state.a 2 ^^^ rotate state.a 13 ^^^ rotate state.a 22
  let majority := (state.a &&& state.b) ^^^ (state.a &&& state.c) ^^^ (state.b &&& state.c)
  ⟨first + (sum0 + majority), state.a, state.b, state.c, state.d + first, state.e, state.f, state.g⟩

def State.add (left right : State) : State :=
  ⟨left.a + right.a, left.b + right.b, left.c + right.c, left.d + right.d,
    left.e + right.e, left.f + right.f, left.g + right.g, left.h + right.h⟩

/-- Feeds one block of 64 bytes into the state. -/
def compress (state : State) (block : Bytes) : State :=
  let schedule := (extend 48 (blockWords block).reverse).reverse
  state.add
    ((roundConstants.zip schedule).foldl (fun state (constant, word) => round state constant word)
      state)

def compressBlocks : Nat → State → Bytes → State
  | 0, state, _ => state
  | count + 1, state, bytes =>
      compressBlocks count (compress state (bytes.take 64)) (bytes.drop 64)

/-- The bytes behind a message: a one bit, zeros, and the length in bits. -/
def padding (length : Nat) : Bytes :=
  0x80 :: List.replicate ((119 - length % 64) % 64) 0 ++ Bytes.ofNatBE 8 (8 * length)

/-- The digest of 32 bytes. -/
def hash (message : Bytes) : Bytes :=
  let padded := message ++ padding message.length
  let state := compressBlocks (padded.length / 64) initialState padded
  [state.a, state.b, state.c, state.d, state.e, state.f, state.g, state.h].flatMap fun word =>
    Bytes.ofNatBE 4 word.toNat

/-- The key as a block of 64 bytes; a longer key is hashed first. -/
def keyBlock (key : Bytes) : Bytes :=
  let short := if 64 < key.length then hash key else key
  short ++ List.replicate (64 - short.length) 0

/-- The authentication code of a message under a key. -/
def hmac (key message : Bytes) : Bytes :=
  let block := keyBlock key
  hash (block.map (· ^^^ 0x5C) ++ hash (block.map (· ^^^ 0x36) ++ message))

end ChainTx.Sha256
