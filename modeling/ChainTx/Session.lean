import ChainTx.Builder
import ChainTx.Call.RpcClient

/-!
Contract: work with one builder, step by step.

Owns:
- what a session holds: its builder, the settings of its network, and the last unsigned and the last
  signed transaction;
- the steps, and what each of them needs. A step that fails leaves both transactions as they were,
  and a connection that fails leaves no builder.

Does not own: what the steps do to transactions.
-/

set_option autoImplicit false

namespace ChainTx

/-- A builder as it was made: of either family behind the shared operations, or of one family. -/
inductive HeldBuilder where
  | shared (builder : Builder)
  | cosmos (builder : Cosmos.Builder)
  | evm (builder : Evm.Builder)
deriving DecidableEq, Repr

/-- The shared operations of a held builder. -/
def HeldBuilder.builder : HeldBuilder → Builder
  | .shared builder => builder
  | .cosmos builder => .cosmos builder
  | .evm builder => .evm builder

structure Session where
  held : Option HeldBuilder
  network : NetworkConfig
  unsigned : Option UnsignedTx
  signed : Option SignedTx
  calls : CallState
deriving Repr

def Session.start (node : Option Node) : Session :=
  ⟨none, {}, none, none, .initial node⟩

/-- Why a step fails: something it needs is not there, or an error. -/
inductive SessionFault where
  | noBuilder
  | noUnsigned
  | noSigned
  | failed (error : TxError)
deriving DecidableEq, Repr

abbrev Step (α : Type) : Type := ExceptT SessionFault (StateM Session) α

namespace Step

/-! ## What steps need -/

def call {α : Type} (work : Call α) : Step α :=
  fun session =>
    match work.run session.calls with
    | (.ok value, calls) => (.ok value, { session with calls })
    | (.error error, calls) => (.error (.failed error), { session with calls })

/-- What is checked without any call. -/
def check {α : Type} (result : Except TxError α) : Step α :=
  call (Call.ofExcept result)

def need {α : Type} (fault : SessionFault) : Option α → Step α
  | some value => pure value
  | none => throw fault

def theHeld : Step HeldBuilder := do
  need .noBuilder (← get).held

/-- The builder of the session, for the operations that both families share. -/
def theBuilder : Step Builder := do
  pure (← theHeld).builder

/-- The last unsigned transaction. -/
def theUnsigned : Step UnsignedTx := do
  need .noUnsigned (← get).unsigned

/-- The last signed transaction. -/
def theSigned : Step SignedTx := do
  need .noSigned (← get).signed

/-! ## Builders -/

/-- Takes a new builder in place of the old one, which goes even if there is no new one. -/
def hold (make : NetworkConfig → Call HeldBuilder) : Step HeldBuilder := do
  let session ← get
  set { session with held := none }
  let held ← call (make session.network)
  modify fun session => { session with held := some held }
  pure held

/-- Connects to the network, whose settings are checked first. -/
def connect (context : CallContext) : Step HeldBuilder :=
  hold fun network => do
    let builder ← Builder.connect network context
    pure (.shared builder)

/-- Connects to a chain of the Cosmos family. -/
def connectCosmos (context : CallContext) : Step HeldBuilder :=
  hold fun network => do
    let builder ← Cosmos.Builder.connect network context
    pure (.cosmos builder)

/-- Takes a builder for a known version. -/
def withVersion (app : AppVersion) : Step HeldBuilder :=
  hold fun network => do
    let builder ← Call.ofExcept (Cosmos.Builder.withVersion network app)
    pure (.cosmos builder)

/-- Connects to a chain of the EVM family. -/
def connectEvm (context : CallContext) : Step HeldBuilder :=
  hold fun network => do
    let builder ← Evm.Builder.connect network context
    pure (.evm builder)

/-- Takes a builder without a node. -/
def offline (chainId : UInt64) : Step HeldBuilder :=
  hold fun _ => pure (.evm (Evm.Builder.offline chainId))

/-- Tells whether the builder accepts a transaction type, given by its token. -/
def supports (rawType : String) : Step Bool := do
  let builder ← theBuilder
  let type ← check (TxType.parse rawType)
  pure (builder.supports type)

/-- The price of gas that an EVM builder would take. -/
def gasPrice (context : CallContext) (requested : Option String) : Step (BitVec 128) := do
  match ← theHeld with
  | .evm builder => call (builder.resolveGasPrice context requested)
  | _ => throw .noBuilder

/-! ## Transactions -/

def keepUnsigned (unsigned : UnsignedTx) : Step UnsignedTx := do
  modify fun session => { session with unsigned := some unsigned }
  pure unsigned

/-- Builds a transaction of a type given by its token, which is read first. -/
def build (context : CallContext) (rawType : String) (request : TxType → BuildRequest) :
    Step UnsignedTx := do
  let type ← check (TxType.parse rawType)
  let builder ← theBuilder
  let unsigned ← call (builder.build context (request type))
  keepUnsigned unsigned

/-- Changes the last unsigned transaction. -/
def edit (change : UnsignedTx → UnsignedTx) : Step UnsignedTx := do
  keepUnsigned (change (← theUnsigned))

/-- Signs the last unsigned transaction; the key is read last. -/
def sign (key : Except TxError SigningKey) : Step SignedTx := do
  let unsigned ← theUnsigned
  let builder ← theBuilder
  let key ← check key
  let signed ← call (builder.sign unsigned key)
  modify fun session => { session with signed := some signed }
  pure signed

/-- Puts the last signed bytes, or none, in place of the unsigned ones. -/
def adoptSigned : Step UnsignedTx := do
  let unsigned ← theUnsigned
  let signed := (← get).signed
  keepUnsigned { unsigned with txBytes := (signed.map SignedTx.txBytes).getD [] }

/-- Verifies the last signature over the last sign doc, by the rules of the Cosmos family. -/
def verify : Step Bool := do
  let signed ← theSigned
  let unsigned ← theUnsigned
  pure (Cosmos.verify signed.publicKey unsigned.signDoc signed.signature)

/-- The last signed transaction and the family that it is to be read by. -/
def signedWithFamily : Step (SignedTx × Framework) := do
  let signed ← theSigned
  let builder ← theBuilder
  pure (signed, builder.framework)

/-- Hands over the given bytes, or the last signed transaction. -/
def broadcast (context : CallContext) (bytes : Option Bytes) : Step BroadcastResult := do
  let signed ← match bytes with
    | some bytes => pure ⟨bytes, [], []⟩
    | none => theSigned
  let builder ← theBuilder
  call (builder.broadcast context signed)

/-! ## Queries without a builder -/

/-- How long an exchange of a query without a builder may take. -/
def queryTimeout : Duration := .ofSeconds 10

def query {α : Type} (endpoint : String) (work : RpcClient → Call α) : Step α :=
  call do
    let client ← Call.ofExcept (RpcClient.make endpoint queryTimeout)
    work client

/-- Uses an EVM client of an endpoint. -/
def evmQuery {α : Type} (endpoint : String) (work : Evm.Client → Call α) : Step α :=
  call do
    let client ← Evm.Client.make endpoint 0 queryTimeout
    work client

end Step

end ChainTx
