import ChainTx.Error

/-!
Contract: the addresses of one chain of the Cosmos family.

Owns: the human-readable parts of account addresses and of validator addresses, and the checks of
addresses against them. Nothing here is shared between chains.

Does not own: the Bech32 format.
-/

set_option autoImplicit false

namespace ChainTx.Cosmos

/-- The human-readable parts of a chain's addresses. -/
structure AddressCodec where
  accountHrp : String
  validatorHrp : String
deriving DecidableEq, Repr

namespace AddressCodec

/-- Refuses a text that is no human-readable part. -/
def checkHrp (text : String) : Except TxError Unit :=
  match Bech32.checkHrp text with
  | .ok _ => .ok ()
  | .error fault => .error (.configuration (.hrp text fault))

def make (accountHrp validatorHrp : String) : Except TxError AddressCodec := do
  checkHrp accountHrp
  checkHrp validatorHrp
  .ok ⟨accountHrp, validatorHrp⟩

/-- The human-readable part of validators by custom: that of accounts with `valoper` behind it. -/
def customaryValidatorHrp (accountHrp : String) : String :=
  accountHrp ++ "valoper"

/-- The codec of an account part and the customary validator part. -/
def ofAccountHrp (accountHrp : String) : Except TxError AddressCodec :=
  make accountHrp (customaryValidatorHrp accountHrp)

/-- True of Bech32 texts under a human-readable part with 1 to 255 bytes of payload. -/
def accepts (hrp address : String) : Bool :=
  match Bech32.decode? address with
  | none => false
  | some decoded =>
      decoded.hrp == hrp && 0 < decoded.payload.length && decoded.payload.length ≤ 255

/-- Refuses a text that is no address under a human-readable part. -/
def check (hrp field address : String) : Except TxError Unit :=
  if accepts hrp address then .ok ()
  else .error (.validation field (.bech32Address address hrp))

/-- Refuses a text that is no account address of the chain. -/
def checkAccount (codec : AddressCodec) (field address : String) : Except TxError Unit :=
  check codec.accountHrp field address

/-- Refuses a text that is no validator address of the chain. -/
def checkValidator (codec : AddressCodec) (field address : String) : Except TxError Unit :=
  check codec.validatorHrp field address

end AddressCodec

end ChainTx.Cosmos
