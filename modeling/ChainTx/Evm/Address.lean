import ChainTx.Bytes.Hex
import ChainTx.Curve.Secp256k1
import ChainTx.Hash.Keccak

/-!
Contract: EVM account addresses.

Owns: addresses as words of 160 bits, their 20 bytes, the address of a public key, and their
mixed-case text, in which the case of every letter is a bit of the hash of the lower-case text.

Does not own: the reading of address texts in payloads.
-/

set_option autoImplicit false

namespace ChainTx.Evm

abbrev Address := BitVec 160

namespace Address

/-- The 20 bytes of an address. -/
def bytes (address : Address) : Bytes :=
  Bytes.ofNatBE 20 address.toNat

/-- The address that 20 bytes spell. -/
def ofBytes (bytes : Bytes) : Address :=
  BitVec.ofNat 160 (Bytes.toNatBE bytes)

/-- The address of a public key: the last 20 bytes of the hash of its coordinates. -/
def ofPublicKey (publicKey : Secp256k1.Point) : Address :=
  ofBytes ((Keccak.hash publicKey.coordinates).drop 12)

/-- The hexadecimal digits of a byte string as numbers. -/
def nibbles (bytes : Bytes) : List Nat :=
  bytes.flatMap fun byte => [byte.toNat / 16, byte.toNat % 16]

/-- A letter becomes a capital where the hash has a digit of eight or more. -/
def checksumChar (digit : Char) (hashDigit : Nat) : Char :=
  if 8 ≤ hashDigit then digit.toUpper else digit

def checksummed (address : Address) : String :=
  let digits := Hex.encodeChars address.bytes
  let hash := nibbles (Keccak.hash (Bytes.ofText (String.ofList digits)))
  String.ofList ('0' :: 'x' :: List.zipWith checksumChar digits hash)

end Address

end ChainTx.Evm
