import ChainTx.Bytes.Base64
import ChainTx.Call.RpcClient
import ChainTx.Lifecycle

/-!
Contract: accounts as a node of the Cosmos family reports them.

Owns: the way from an account object, which may be wrapped in others, to number, sequence and public
key; both spellings of every member; and the query for an account.

Does not own: what the account is used for.
-/

set_option autoImplicit false

namespace ChainTx.Cosmos

namespace Account

def wrapperLimit : Nat := 4

/-- A member under either spelling. The first spelling that is there decides, and a null member
counts as missing. -/
def member? (value : Json) (snake camel : String) : Option Json :=
  match (value.get? snake).or (value.get? camel) with
  | some .null => none
  | found => found

def wrapped? (value : Json) : Option Json :=
  (member? value "base_account" "baseAccount").or
    (member? value "base_vesting_account" "baseVestingAccount")

/-- Takes off at most so many wrappers. -/
def unwrap : Nat → Json → Json
  | 0, value => value
  | count + 1, value =>
      match wrapped? value with
      | some inner => if inner.isObject then unwrap count inner else value
      | none => value

/-- A number of 64 bits, as decimal text or as a JSON number. -/
def numberOf (value : Json) (snake camel : String) : Except TxError UInt64 :=
  let fault (cause : AccountFieldFault) : Except TxError UInt64 :=
    .error (.transport (.accountField snake cause))
  match member? value snake camel with
  | none => fault .missing
  | some (.string text) =>
      match Decimal.uint64? text.toList with
      | some number => .ok number
      | none => fault (.textNotUInt64 text)
  | some (.integer number) =>
      match (Json.integer number).uint64? with
      | some number => .ok number
      | none => fault .notUInt64
  | some (.float _) => fault .notUInt64
  | some _ => fault .unexpectedType

/-- The end of the type names of usable keys. -/
def keyTypeEnding : List Char := "secp256k1.PubKey".toList

/-- The bytes of a usable key: of the right type, in Base64, and 33 of them. -/
def keyBytes? (key : Json) : Option Bytes := do
  let type := ((key.get? "@type").bind Json.string?).getD ""
  if keyTypeEnding.isSuffixOf type.toList then
    let text ← (key.get? "key").bind Json.string?
    let bytes ← Base64.decode? text
    if bytes.length = 33 then some bytes else none
  else none

/-- What an account object tells. The address asked for stands in where the object names none. -/
def ofJson (address : String) (account : Json) : Except TxError AccountInfo := do
  let base := unwrap wrapperLimit account
  let accountNumber ← numberOf base "account_number" "accountNumber"
  let sequence ← numberOf base "sequence" "sequence"
  let publicKey := (member? base "pub_key" "pubKey").bind keyBytes?
  let named := (member? base "address" "address").bind Json.string?
  .ok ⟨named.getD address, accountNumber, sequence, publicKey⟩

/-- The path of the query for an account. -/
def path (address : String) : String :=
  "cosmos/auth/v1beta1/accounts/" ++ address

/-- What the answer to the query for an account tells. -/
def ofReply (address : String) (reply : HttpReply) : Except TxError AccountInfo :=
  if reply.status = 404 then .error (.notFound address)
  else if reply.isSuccess then
    match Json.read? reply.body with
    | none => .error (.transport (.malformed "account"))
    | some body =>
        match body.get? "account" with
        | none => .error (.transport .noAccount)
        | some account => ofJson address account
  else .error (.api reply.status reply.body)

/-- Asks for an account; answers are never kept. -/
def resolve (rest : RpcClient) (context : CallContext) (address : String) : Call AccountInfo := do
  let reply ← rest.get context "account query" (path address)
  let info ← Call.ofExcept (ofReply address reply)
  Call.emit .debug "Resolved account"
  pure info

end Account

end ChainTx.Cosmos
