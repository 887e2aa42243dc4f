import ChainTx.Curve.Secp256k1
import ChainTx.Hash.Sha256

/-!
Contract: signatures over secp256k1.

Owns: private keys, deterministic nonces from key and digest by the HMAC generator over SHA-256,
signatures with the smaller of the two possible `s`, the parity that recovery needs, verification
(which refuses the larger `s`), and recovery of the public key.

Does not own: the hash of the message; a digest is 32 bytes.
-/

set_option autoImplicit false

namespace ChainTx.Ecdsa

open Secp256k1

/-- A private key: a number from 1 to below the group order. -/
structure PrivateKey where
  scalar : Nat
  pos : 0 < scalar
  lt_order : scalar < order
deriving DecidableEq, Repr

namespace PrivateKey

/-- The key that bytes spell, if it is in range. -/
def ofBytes? (bytes : Bytes) : Option PrivateKey :=
  let scalar := Bytes.toNatBE bytes
  if inRange : 0 < scalar ∧ scalar < order then some ⟨scalar, inRange.1, inRange.2⟩ else none

/-- The key as 32 bytes. -/
def bytes (key : PrivateKey) : Bytes :=
  Bytes.ofNatBE 32 key.scalar

def publicKey (key : PrivateKey) : Point :=
  (generator.multiple? key.scalar).getD generator

end PrivateKey

/-- A signature with the parity of the second coordinate of the nonce's point. -/
structure Signature where
  r : BitVec 256
  s : BitVec 256
  yIsOdd : Bool
deriving DecidableEq, Repr

namespace Signature

/-- The two numbers as 64 bytes. -/
def bytes (signature : Signature) : Bytes :=
  Bytes.ofNatBE 32 signature.r.toNat ++ Bytes.ofNatBE 32 signature.s.toNat

end Signature

/-! ## Nonces -/

structure Generator where
  key : Bytes
  value : Bytes
deriving DecidableEq, Repr

/-- The generator seeded with a private key and a digest. -/
def Generator.seeded (entropy : Bytes) : Generator :=
  let key0 : Bytes := List.replicate 32 0x00
  let value0 : Bytes := List.replicate 32 0x01
  let key1 := Sha256.hmac key0 (value0 ++ 0x00 :: entropy)
  let value1 := Sha256.hmac key1 value0
  let key2 := Sha256.hmac key1 (value1 ++ 0x01 :: entropy)
  ⟨key2, Sha256.hmac key2 value1⟩

/-- The first candidate from 1 to below the order among so many; 1 if there is none, which has a
chance below one in `2 ^ 128` for each candidate. -/
def Generator.firstNonce : Nat → Generator → Nat
  | 0, _ => 1
  | attempts + 1, generator =>
      let value := Sha256.hmac generator.key generator.value
      let candidate := Bytes.toNatBE value
      if 0 < candidate ∧ candidate < order then candidate
      else
        let key := Sha256.hmac generator.key (value ++ [0x00])
        Generator.firstNonce attempts ⟨key, Sha256.hmac key value⟩

/-- The nonce of a digest under a key. -/
def nonce (key : PrivateKey) (digest : Bytes) : Nat :=
  Generator.firstNonce 128 (Generator.seeded (key.bytes ++ digest))

/-! ## Signing, verification, recovery -/

def sign (key : PrivateKey) (digest : Bytes) : Signature :=
  let k := nonce key digest
  let point := (generator.multiple? k).getD generator
  let r := point.x % order
  let z := Bytes.toNatBE digest
  let s := invMod order k * ((z + r * key.scalar) % order) % order
  let yIsOdd := point.y % 2 == 1
  if order / 2 < s then
    ⟨BitVec.ofNat 256 r, BitVec.ofNat 256 (order - s), !yIsOdd⟩
  else
    ⟨BitVec.ofNat 256 r, BitVec.ofNat 256 s, yIsOdd⟩

/-- True when the numbers sign the digest under a public key. -/
def verify (publicKey : Point) (digest : Bytes) (r s : Nat) : Bool :=
  if r = 0 ∨ order ≤ r ∨ s = 0 ∨ order / 2 < s then false
  else
    let inverse := invMod order s
    let u1 := Bytes.toNatBE digest * inverse % order
    let u2 := r * inverse % order
    match ((generator.toJacobian.multiple u1).add (publicKey.toJacobian.multiple u2)).toPoint? with
    | none => false
    | some point => point.x % order == r

/-- The public key under which a signature signs the digest. -/
def recover? (digest : Bytes) (signature : Signature) : Option Point :=
  let r := signature.r.toNat
  let s := signature.s.toNat
  if r = 0 ∨ order ≤ r ∨ s = 0 ∨ order ≤ s then none
  else
    match liftX? r signature.yIsOdd with
    | none => none
    | some point =>
        let inverse := invMod order r
        let u1 := (order - Bytes.toNatBE digest % order) * inverse % order
        let u2 := s * inverse % order
        ((generator.toJacobian.multiple u1).add (point.toJacobian.multiple u2)).toPoint?

end ChainTx.Ecdsa
