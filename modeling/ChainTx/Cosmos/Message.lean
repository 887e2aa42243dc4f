import ChainTx.Coin
import ChainTx.Cosmos.AddressCodec
import ChainTx.Payload

/-!
Contract: the messages of the Cosmos family and the payloads that describe them.

Owns: vote options, messages, and the readers of both. The sender is attached to a message as it is;
addresses in the payload are checked by the chain's codec.

Does not own: the bytes of messages.
-/

set_option autoImplicit false

namespace ChainTx.Cosmos

inductive VoteOption where
  | yes
  | no
  | abstain
  | noWithVeto
deriving DecidableEq, Repr

namespace VoteOption

/-- The number of a vote option on the wire. -/
def number : VoteOption → Int32
  | .yes => 1
  | .abstain => 2
  | .no => 3
  | .noWithVeto => 4

def name : VoteOption → String
  | .yes => "Yes"
  | .no => "No"
  | .abstain => "Abstain"
  | .noWithVeto => "NoWithVeto"

/-- The vote option of a lower-case word. -/
def ofWord? (word : String) : Option VoteOption :=
  if word = "yes" then some .yes
  else if word = "no" then some .no
  else if word = "abstain" then some .abstain
  else if word = "no_with_veto" ∨ word = "nowithveto" then some .noWithVeto
  else none

/-- Reads a vote option; ASCII case and blanks around it do not matter. -/
def parse (raw : String) : Except TxError VoteOption :=
  match ofWord? (String.ofList ((Blank.trimChars raw.toList).map Char.toLower)) with
  | some option => .ok option
  | none => .error (.validation "option" (.voteOption raw))

end VoteOption

inductive Message where
  | vote (voter : String) (proposalId : UInt64) (option : VoteOption)
  | send (fromAddress toAddress : String) (amount : Coin)
  | delegate (delegator validator : String) (amount : Coin)
  | authzGrant (granter grantee messageType : String)
  | feegrantAllowance (granter grantee : String) (spendLimit : List Coin)
deriving DecidableEq, Repr

namespace Message

/-- A type URL starts with a slash and has something behind it. -/
def isTypeUrl (text : String) : Bool :=
  match text.toList with
  | '/' :: _ :: _ => true
  | _ => false

/-- Reads the text of a field as the type of a message. -/
def parseTypeUrl (raw : String) : Except TxError String :=
  if isTypeUrl raw then .ok raw else .error (.validation "msgTypeUrl" (.messageType raw))

/-- Reads an account address from a field. -/
def accountOf (codec : AddressCodec) (payload : Payload) (field : String) :
    Except TxError String := do
  let address ← payload.requiredText field
  codec.checkAccount field address
  .ok address

/-- Reads a validator address from a field. -/
def validatorOf (codec : AddressCodec) (payload : Payload) (field : String) :
    Except TxError String := do
  let address ← payload.requiredText field
  codec.checkValidator field address
  .ok address

def coinOf (payload : Payload) (field : String) : Except TxError Coin := do
  Coin.parse field (← payload.requiredText field)

/-- Reads at most one coin from a field. -/
def coinsOf (payload : Payload) (field : String) : Except TxError (List Coin) := do
  match ← payload.optionalText field with
  | some raw => do
      let coin ← Coin.parse field raw
      .ok [coin]
  | none => .ok []

/-- Reads the payload of a transaction type; its fields are judged in a fixed order. -/
def ofPayload (type : TxType) (sender : String) (payload : Payload) (codec : AddressCodec) :
    Except TxError Message := do
  match type with
  | .govVote => do
      let proposalId ← payload.requiredUInt64 "proposalId"
      let option ← VoteOption.parse (← payload.requiredText "option")
      .ok (.vote sender proposalId option)
  | .bankSend => do
      let toAddress ← accountOf codec payload "toAddress"
      let amount ← coinOf payload "amount"
      .ok (.send sender toAddress amount)
  | .stakingDelegate => do
      let validator ← validatorOf codec payload "validatorAddress"
      let amount ← coinOf payload "amount"
      .ok (.delegate sender validator amount)
  | .authzGrant => do
      let grantee ← accountOf codec payload "granteeAddress"
      let messageType ← parseTypeUrl (← payload.requiredText "msgTypeUrl")
      .ok (.authzGrant sender grantee messageType)
  | .feegrantAllowance => do
      let grantee ← accountOf codec payload "granteeAddress"
      let spendLimit ← coinsOf payload "spendLimit"
      .ok (.feegrantAllowance sender grantee spendLimit)
  | .nativeTransfer => .error (.unsupportedTxType type.token)

/-- Reads the message that a payload describes. -/
def parse (type : TxType) (sender : String) (json : Json) (codec : AddressCodec) :
    Except TxError Message := do
  let payload ← Payload.ofJson json
  ofPayload type sender payload codec

end Message

end ChainTx.Cosmos
