import ChainTx.Bytes

/-!
Contract: variable-length numbers of the protobuf wire format.

Owns: the encoder, seven bits to a byte with the least significant first, and the reader. The reader
takes at most ten bytes and refuses a tenth byte above one, so that what it returns has 64 bits; it
accepts spellings that are longer than necessary.
-/

set_option autoImplicit false

namespace ChainTx.Protobuf.Varint

def encode (number : Nat) : Bytes :=
  if number < 128 then [UInt8.ofNat number]
  else UInt8.ofNat (128 + number % 128) :: encode (number / 128)
termination_by number

/-- Reads a number of at most so many bytes; the last of ten may hold one bit only. -/
def readAtMost : Nat → Bytes → Option (Nat × Bytes)
  | 0, _ => none
  | _ + 1, [] => none
  | count + 1, byte :: rest =>
      if byte.toNat < 128 then
        if count = 0 ∧ 2 ≤ byte.toNat then none else some (byte.toNat, rest)
      else do
        let (higher, rest) ← readAtMost count rest
        some (byte.toNat % 128 + 128 * higher, rest)

/-- Reads a number and returns the bytes behind it. -/
def read (bytes : Bytes) : Option (UInt64 × Bytes) := do
  let (number, rest) ← readAtMost 10 bytes
  some (UInt64.ofNat number, rest)

end ChainTx.Protobuf.Varint
