import ChainTx.Cosmos.Encoding
import ChainTx.Lifecycle

/-!
Contract: signatures of the Cosmos family, in direct mode.

Owns: signatures over the SHA-256 digest of a document, their verification, the check of a public
key that a request brings, and the signing of an unsigned transaction. Signing refuses whatever does
not fit together: a transaction that is signed already, a sign doc for other bytes or another
account, an auth info without exactly one signer, another sequence, or another signer's key.

Does not own: the arithmetic of the curve.
-/

set_option autoImplicit false

namespace ChainTx.Cosmos

/-- The signature of a document: 64 bytes. -/
def signBytes (key : Ecdsa.PrivateKey) (doc : Bytes) : Bytes :=
  (Ecdsa.sign key (Sha256.hash doc)).bytes

/-- The compressed public key of a private key. -/
def compressedPublicKey (key : Ecdsa.PrivateKey) : Bytes :=
  key.publicKey.compressed

/-- True when 64 bytes sign a document under a public key. -/
def verify (publicKey doc signature : Bytes) : Bool :=
  match Secp256k1.Point.ofBytes? publicKey with
  | none => false
  | some point =>
      if signature.length = 64 then
        Ecdsa.verify point (Sha256.hash doc) (Bytes.toNatBE (signature.take 32))
          (Bytes.toNatBE (signature.drop 32))
      else false

/-- Refuses bytes that are no public key of 33 bytes. -/
def checkPublicKey (publicKey : Bytes) : Except TxError Unit :=
  if publicKey.length ≠ 33 then
    .error (.validation "pubKey" (.publicKeyLength publicKey.length))
  else
    match Secp256k1.Point.ofBytes? publicKey with
    | some _ => .ok ()
    | none => .error (.validation "pubKey" .publicKeyPoint)

/-- The one signer of an auth info. -/
def theSigner (info : AuthInfo) : Except TxError SignerInfo :=
  match info.signers with
  | [signer] => .ok signer
  | signers => .error (.encoding (.signerCount signers.length))

/-- Refuses a signer info that names another key than the signer's. -/
def checkDeclaredKey (signer : SignerInfo) (publicKey : Bytes) : Except TxError Unit := do
  match ← signer.publicKeyBytes with
  | some declared => SigningKey.require (declared == publicKey) .foreignKey
  | none => .ok ()

/-- Signs a transaction and attaches the signature. -/
def signTx (unsigned : UnsignedTx) (key : SigningKey) : Except TxError SignedTx := do
  SigningKey.require (unsigned.txBytes != []) .emptyTransaction
  SigningKey.require (unsigned.signDoc != []) .emptySignDoc
  let privateKey ← SigningKey.load .cosmos key.bytes
  let publicKey := compressedPublicKey privateKey
  let raw ← decodeTxRaw unsigned.txBytes
  SigningKey.require (raw.signatures == []) .alreadySigned
  let doc ← decodeSignDoc unsigned.signDoc
  SigningKey.require (doc.bodyBytes == raw.bodyBytes && doc.authInfoBytes == raw.authInfoBytes)
    .signDocMismatch
  SigningKey.require (doc.accountNumber == unsigned.accountNumber)
    (.accountNumberMismatch doc.accountNumber unsigned.accountNumber)
  let info ← decodeAuthInfo raw.authInfoBytes
  let signer ← theSigner info
  SigningKey.require (signer.sequence == unsigned.sequence)
    (.sequenceMismatch signer.sequence unsigned.sequence)
  checkDeclaredKey signer publicKey
  let signature := signBytes privateKey unsigned.signDoc
  .ok ⟨{ raw with signatures := [signature] }.encode, signature, publicKey⟩

end ChainTx.Cosmos
