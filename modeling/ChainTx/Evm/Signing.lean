import ChainTx.Lifecycle

/-!
Contract: signatures of the EVM family.

Owns: the address of a private key, the 65 bytes of a signature, the hash text of a transaction, and
the signing of an unsigned transaction. Signing refuses a sign doc that is not the hash of the
transaction.

Does not own: the arithmetic of the curve.
-/

set_option autoImplicit false

namespace ChainTx.Evm

/-- The address of a private key given as bytes. -/
def signerAddress (key : Bytes) : Except TxError Address := do
  let privateKey ← SigningKey.load .evm key
  .ok (Address.ofPublicKey privateKey.publicKey)

/-- The two numbers and the parity, counted from 27. -/
def signatureBytes (signature : Ecdsa.Signature) : Bytes :=
  signature.bytes ++ [if signature.yIsOdd then 28 else 27]

/-- The hash of signed bytes, as text. -/
def txHash (bytes : Bytes) : String :=
  "0x" ++ Hex.encode (Keccak.hash bytes)

def decodeUnsigned (bytes : Bytes) : Except TxError LegacyTx :=
  (LegacyTx.decodeUnsigned bytes).mapError fun fault => .encoding (.unsigned fault)

def decodeSigned (bytes : Bytes) : Except TxError SignedLegacyTx :=
  (SignedLegacyTx.decode bytes).mapError fun fault => .encoding (.signed fault)

/-- Signs a transaction and attaches the signature. -/
def signTx (unsigned : UnsignedTx) (key : SigningKey) : Except TxError SignedTx := do
  SigningKey.require (unsigned.txBytes != []) .emptyTransaction
  SigningKey.require (unsigned.signDoc != []) .emptySignDoc
  SigningKey.require (key.bytes != []) .missingKey
  SigningKey.require (unsigned.signDoc.length == 32) (.signDocLength unsigned.signDoc.length)
  let tx ← decodeUnsigned unsigned.txBytes
  SigningKey.require (tx.signingHash == unsigned.signDoc) .signDocMismatch
  let privateKey ← SigningKey.load .evm key.bytes
  let signature := Ecdsa.sign privateKey unsigned.signDoc
  SigningKey.require (signature.r != 0 && signature.s != 0) .zeroComponent
  .ok ⟨(SignedLegacyTx.mk tx signature).encode, signatureBytes signature,
    privateKey.publicKey.compressed⟩

end ChainTx.Evm
