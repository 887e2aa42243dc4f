import ChainTx.Cosmos.Builder
import ChainTx.Evm.Builder

/-!
Contract: builders of either family behind one set of operations.

Owns: the choice of the family from the settings, after the settings have been checked, and the
operations that both families share. Builders hold no state that changes.
-/

set_option autoImplicit false

namespace ChainTx

inductive Builder where
  | cosmos (builder : Cosmos.Builder)
  | evm (builder : Evm.Builder)
deriving DecidableEq, Repr

namespace Builder

/-- A builder of the family that the settings name. -/
def ofFamily (network : NetworkConfig) (context : CallContext) : Call Builder := do
  match network.framework with
  | .cosmos => do
      let builder ← Cosmos.Builder.connect network context
      pure (.cosmos builder)
  | .evm => do
      let builder ← Evm.Builder.connect network context
      pure (.evm builder)

/-- A builder for a network, whose settings must have no problem. -/
def connect (network : NetworkConfig) (context : CallContext) : Call Builder := do
  if network.problems ≠ [] then throw (.configuration (.rejected network.problems))
  let builder ← ofFamily network context
  Call.emit .info "Transaction builder ready"
  pure builder

def framework : Builder → Framework
  | .cosmos _ => .cosmos
  | .evm _ => .evm

/-- The version of the chain that the builder is bound to. -/
def app : Builder → AppVersion
  | .cosmos builder => builder.app
  | .evm builder => builder.app

/-- The transaction types that the builder accepts. -/
def txTypes : Builder → List TxType
  | .cosmos builder => builder.txTypes
  | .evm builder => builder.txTypes

/-- True of the transaction types that the builder accepts. -/
def supports (builder : Builder) (txType : TxType) : Bool :=
  builder.txTypes.contains txType

def build (builder : Builder) (context : CallContext) (request : BuildRequest) :
    Call UnsignedTx :=
  match builder with
  | .cosmos builder => builder.build context request
  | .evm builder => builder.build context request

def sign (builder : Builder) (unsigned : UnsignedTx) (key : SigningKey) : Call SignedTx :=
  match builder with
  | .cosmos builder => builder.sign unsigned key
  | .evm builder => builder.sign unsigned key

def broadcast (builder : Builder) (context : CallContext) (signed : SignedTx) :
    Call BroadcastResult :=
  match builder with
  | .cosmos builder => builder.broadcast context signed
  | .evm builder => builder.broadcast context signed

end Builder

end ChainTx
