import ChainTx.Error
import ChainTx.Text.Blank

/-!
Contract: private keys as callers hand them over.

Owns: the key of one signer as bytes that are not yet judged, its reader from hexadecimal text, its
shown form without the key, and the passage to a key that can sign.

Does not own: signatures.
-/

set_option autoImplicit false

namespace ChainTx

structure SigningKey where
  address : String
  bytes : Bytes
deriving DecidableEq, Repr

namespace SigningKey

/-- Drops a leading `0x`. -/
def dropMark : List Char → List Char
  | '0' :: 'x' :: rest => rest
  | chars => chars

/-- Reads a key from hexadecimal text, with blanks around it or not. -/
def ofHex (address text : String) : Except TxError SigningKey :=
  match Hex.decode (String.ofList (dropMark (Blank.trimChars text.toList))) with
  | .ok bytes => .ok ⟨address, bytes⟩
  | .error fault => .error (.signing (.keyText fault))

/-- The form in which a key may be logged. -/
def shown (key : SigningKey) : String :=
  "SigningKey \x7b address: " ++ Quoted.text key.address ++ ", priv_key: "
    ++ Quoted.text "<redacted>" ++ " \x7d"

/-- The key that bytes spell: there must be 32 of them, and in range. The family decides on the
wording. -/
def load (framework : Framework) (bytes : Bytes) : Except TxError Ecdsa.PrivateKey :=
  if bytes = [] then .error (.signing .missingKey)
  else if bytes.length ≠ 32 then .error (.signing (.keyLength bytes.length))
  else
    match Ecdsa.PrivateKey.ofBytes? bytes with
    | some key => .ok key
    | none => .error (.signing (.keyOutOfRange framework))

/-- Goes on with signing only if a condition holds. -/
def require (condition : Bool) (fault : SigningFault) : Except TxError Unit :=
  if condition then .ok () else .error (.signing fault)

end SigningKey

end ChainTx
