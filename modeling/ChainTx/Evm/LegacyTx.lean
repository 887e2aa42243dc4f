import ChainTx.Curve.Ecdsa
import ChainTx.Evm.Address
import ChainTx.Evm.Rlp

/-!
Contract: legacy transactions and their encodings.

Owns:
- transactions with an optional chain id;
- the unsigned encoding, which ends in the chain id and two zeros, its hash, and its strict reader;
- the signed encoding, which ends in the recovery number and the two numbers of the signature, and
  its field reader. The recovery number carries the chain id and the parity.

Does not own: type bytes in front of a transaction, or signing.
-/

set_option autoImplicit false

namespace ChainTx.Evm

/-- A transaction with one gas price. Without a recipient it creates a contract. -/
structure LegacyTx where
  chainId : Option UInt64
  nonce : UInt64
  gasPrice : BitVec 128
  gasLimit : UInt64
  recipient : Option Address
  value : BitVec 256
  input : Bytes
deriving DecidableEq, Repr

structure SignedLegacyTx where
  tx : LegacyTx
  signature : Ecdsa.Signature
deriving DecidableEq, Repr

namespace LegacyTx

/-! ## Encoders -/

/-- The recipient: 20 bytes, or the empty string. -/
def encodeRecipient : Option Address → Bytes
  | none => Rlp.encodeBytes []
  | some address => Rlp.encodeBytes address.bytes

/-- The six fields that unsigned and signed encodings share. -/
def encodeFields (tx : LegacyTx) : Bytes :=
  Rlp.encodeNat tx.nonce.toNat ++ Rlp.encodeNat tx.gasPrice.toNat
    ++ Rlp.encodeNat tx.gasLimit.toNat ++ encodeRecipient tx.recipient
    ++ Rlp.encodeNat tx.value.toNat ++ Rlp.encodeBytes tx.input

/-- The chain id and two zeros; nothing without a chain id. -/
def encodeTrailer : Option UInt64 → Bytes
  | none => []
  | some chainId => Rlp.encodeNat chainId.toNat ++ Rlp.encodeNat 0 ++ Rlp.encodeNat 0

/-- The encoding that is hashed for signing. -/
def encodeUnsigned (tx : LegacyTx) : Bytes :=
  Rlp.encodeList (tx.encodeFields ++ encodeTrailer tx.chainId)

def signingHash (tx : LegacyTx) : Bytes :=
  Keccak.hash tx.encodeUnsigned

/-- The recovery number: 27 or 28 without a chain, else 35 or 36 more than twice the chain id. -/
def recoveryNumber (chainId : Option UInt64) (yIsOdd : Bool) : Nat :=
  match chainId with
  | none => 27 + yIsOdd.toNat
  | some chainId => 35 + 2 * chainId.toNat + yIsOdd.toNat

/-- The parity and the chain of a recovery number, if the chain id has 64 bits. -/
def ofRecoveryNumber? (number : Nat) : Option (Bool × Option UInt64) :=
  if number = 27 then some (false, none)
  else if number = 28 then some (true, none)
  else if number < 35 then none
  else
    let chainId := (number - 35) / 2
    if chainId < 2 ^ 64 then some ((number - 35) % 2 == 1, some (UInt64.ofNat chainId)) else none

/-! ## Readers -/

/-- Reads a recipient: the empty string means that there is none. -/
def readRecipient (bytes : Bytes) : Except Rlp.Fault (Option Address × Bytes) :=
  match bytes with
  | [] => .error .inputTooShort
  | first :: rest =>
      if first = Rlp.emptyString then .ok (none, rest)
      else do
        let (payload, rest) ← Rlp.readFixed 20 bytes
        .ok (some (Address.ofBytes payload), rest)

/-- Reads the six fields that unsigned and signed encodings share; the chain id is left out. -/
def readFields (bytes : Bytes) : Except Rlp.Fault (LegacyTx × Bytes) := do
  let (nonce, bytes) ← Rlp.readUInt64 bytes
  let (gasPrice, bytes) ← Rlp.readUInt128 bytes
  let (gasLimit, bytes) ← Rlp.readUInt64 bytes
  let (recipient, bytes) ← readRecipient bytes
  let (value, bytes) ← Rlp.readUInt256 bytes
  let (input, bytes) ← Rlp.readBytes bytes
  .ok (⟨none, nonce, gasPrice, gasLimit, recipient, value, input⟩, bytes)

/-- What can be wrong with an unsigned encoding. -/
inductive UnsignedFault where
  | rlp (fault : Rlp.Fault)
  | notList
  | lengthMismatch
  | nonzeroTrailer
  | trailingBytes
deriving DecidableEq, Repr

def UnsignedFault.message : UnsignedFault → String
  | .rlp fault => fault.message
  | .notList => "expected an RLP list"
  | .lengthMismatch => "length prefix does not match the payload"
  | .nonzeroTrailer => "EIP-155 trailer must be (chainId, 0, 0)"
  | .trailingBytes => "trailing bytes"

/-- Reads an unsigned encoding: one list of exactly nine items, the last two of them zero. -/
def decodeUnsigned (bytes : Bytes) : Except UnsignedFault LegacyTx := do
  let (head, payload) ← (Rlp.readHeader bytes).mapError .rlp
  if head.isList = false then .error .notList
  else if head.payloadLength ≠ payload.length then .error .lengthMismatch
  else
    let (tx, rest) ← (readFields payload).mapError .rlp
    let (chainId, rest) ← (Rlp.readUInt64 rest).mapError .rlp
    let (r, rest) ← (Rlp.readUInt64 rest).mapError .rlp
    let (s, rest) ← (Rlp.readUInt64 rest).mapError .rlp
    if r ≠ 0 ∨ s ≠ 0 then .error .nonzeroTrailer
    else if rest ≠ [] then .error .trailingBytes
    else .ok { tx with chainId := some chainId }

/-- Reads the recovery number, which tells the parity and the chain. -/
def readRecovery (bytes : Bytes) : Except Rlp.Fault ((Bool × Option UInt64) × Bytes) := do
  let (number, rest) ← Rlp.readUInt128 bytes
  match ofRecoveryNumber? number.toNat with
  | some recovered => .ok (recovered, rest)
  | none => .error .invalidParity

end LegacyTx

namespace SignedLegacyTx

def encode (signed : SignedLegacyTx) : Bytes :=
  let recovery := LegacyTx.recoveryNumber signed.tx.chainId signed.signature.yIsOdd
  Rlp.encodeList (signed.tx.encodeFields ++ Rlp.encodeNat recovery
    ++ Rlp.encodeNat signed.signature.r.toNat ++ Rlp.encodeNat signed.signature.s.toNat)

/-- Reads a signed encoding and returns the bytes behind it. -/
def read (bytes : Bytes) : Except Rlp.Fault (SignedLegacyTx × Bytes) := do
  let (head, payload) ← Rlp.readHeader bytes
  if head.isList = false then .error .unexpectedString
  else
    let (tx, rest) ← LegacyTx.readFields payload
    let ((yIsOdd, chainId), rest) ← LegacyTx.readRecovery rest
    let (r, rest) ← Rlp.readUInt256 rest
    let (s, rest) ← Rlp.readUInt256 rest
    let consumed := payload.length - rest.length
    if consumed = head.payloadLength then
      .ok (⟨{ tx with chainId := chainId }, ⟨r, s, yIsOdd⟩⟩, rest)
    else .error (.listLengthMismatch consumed head.payloadLength)

/-- The account whose key signed the transaction, if the signature has a public key. -/
def sender? (signed : SignedLegacyTx) : Option Address :=
  (Ecdsa.recover? signed.tx.signingHash signed.signature).map Address.ofPublicKey

end SignedLegacyTx

end ChainTx.Evm
