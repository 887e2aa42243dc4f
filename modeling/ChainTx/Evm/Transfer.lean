import ChainTx.Payload

/-!
Contract: native transfers and the texts in their payloads.

Owns: transfers; the readers of addresses, amounts of wei, call data and chain ids; and the
transaction that a transfer becomes.
-/

set_option autoImplicit false

namespace ChainTx.Evm

/-- A transfer of value with call data. -/
structure Transfer where
  recipient : Address
  value : BitVec 256
  data : Bytes
deriving DecidableEq, Repr

/-- The characters behind a leading `0x`. -/
def afterMark? : List Char → Option (List Char)
  | '0' :: 'x' :: rest => some rest
  | _ => none

/-- The address that 40 hexadecimal digits spell; their case does not matter. -/
def addressOfDigits? (digits : List Char) : Option Address :=
  if digits.length = 40 ∧ digits.all Hex.isDigit then
    some (BitVec.ofNat 160
      (digits.foldl (fun prior digit => 16 * prior + (Hex.digitValue? digit).getD 0) 0))
  else none

/-- Reads an address: `0x` and 40 hexadecimal digits. -/
def parseAddress (field raw : String) : Except TxError Address :=
  match (afterMark? raw.toList).bind addressOfDigits? with
  | some address => .ok address
  | none => .error (.validation field (.evmAddress raw))

/-- Reads an amount of wei: decimal digits of a number of 256 bits. -/
def parseWei (field raw : String) : Except TxError (BitVec 256) :=
  match Decimal.read? raw.toList with
  | none => .error (.validation field (.malformedWei raw))
  | some number =>
      if number < 2 ^ 256 then .ok (BitVec.ofNat 256 number)
      else .error (.validation field (.weiTooLarge raw))

/-- Reads call data: `0x` and an even count of hexadecimal digits. -/
def parseData (field raw : String) : Except TxError Bytes :=
  let invalid : Except TxError Bytes := .error (.validation field (.malformedData raw))
  match afterMark? raw.toList with
  | none => invalid
  | some digits =>
      match Hex.decode (String.ofList digits) with
      | .ok data => .ok data
      | .error _ => invalid

/-- Reads a chain id: a decimal number of 64 bits, with blanks around it or not. -/
def parseChainId (raw : String) : Except TxError UInt64 :=
  match Decimal.uint64? (Blank.trimChars raw.toList) with
  | some chainId => .ok chainId
  | none => .error (.configuration (.chainId raw))

namespace Transfer

/-- Reads the call data of a payload; without any the data is empty. -/
def dataOf (payload : Payload) : Except TxError Bytes := do
  match ← payload.optionalText "data" with
  | some raw => parseData "data" raw
  | none => .ok []

/-- Reads the payload of a native transfer. -/
def ofPayload (json : Json) : Except TxError Transfer := do
  let payload ← Payload.ofJson json
  let recipient ← parseAddress "toAddress" (← payload.requiredText "toAddress")
  let value ← parseWei "amount" (← payload.requiredText "amount")
  let data ← dataOf payload
  .ok ⟨recipient, value, data⟩

/-- Reads the payload of a transaction type, which must be the native transfer. -/
def parse (type : TxType) (json : Json) : Except TxError Transfer :=
  if type = .nativeTransfer then ofPayload json
  else .error (.unsupportedTxType type.token)

/-- The transaction of a transfer on a chain. -/
def toTx (transfer : Transfer) (nonce : UInt64) (gasPrice : BitVec 128) (gasLimit : UInt64)
    (chainId : UInt64) : LegacyTx :=
  ⟨some chainId, nonce, gasPrice, gasLimit, some transfer.recipient, transfer.value, transfer.data⟩

end Transfer

end ChainTx.Evm
