import ChainTx.Cosmos.AddressCodec
import ChainTx.Endpoint

/-!
Contract: settings and their checks.

Owns: the settings of a network, of deadlines and of logs, with their defaults, the values that
follow from them, and the checks, which report every problem at once.

Does not own: how settings are written down.
-/

set_option autoImplicit false

namespace ChainTx

structure NetworkConfig where
  framework : Framework := .cosmos
  rpcEndpoint : String := ""
  /-- Where accounts are asked for; without it the other endpoint. -/
  restEndpoint : Option String := none
  chainId : String := ""
  addressPrefix : String := "cosmos"
  validatorPrefix : Option String := none
  /-- The application version, where the node need not be asked. -/
  sdkVersion : Option String := none
  defaultGasLimit : UInt64 := 200000
  requestTimeoutSeconds : UInt64 := 10
deriving DecidableEq, Repr

namespace NetworkConfig

def effectiveRestEndpoint (network : NetworkConfig) : String :=
  network.restEndpoint.getD network.rpcEndpoint

def effectiveValidatorPrefix (network : NetworkConfig) : String :=
  network.validatorPrefix.getD (Cosmos.AddressCodec.customaryValidatorHrp network.addressPrefix)

def requestTimeout (network : NetworkConfig) : Duration :=
  .ofSeconds network.requestTimeoutSeconds.toNat

end NetworkConfig

structure Config where
  network : NetworkConfig := {}
  callSeconds : UInt64 := 30
  logLevel : String := "info"
  jsonLogs : Bool := false
deriving DecidableEq, Repr

def Config.callTimeout (config : Config) : Duration :=
  .ofSeconds config.callSeconds.toNat

/-! ## Checks -/

/-- The problem of an endpoint, if it has one. -/
def endpointProblem (setting text : String) : List Problem :=
  match Endpoint.parse text with
  | .ok _ => []
  | .error fault => [⟨setting, .endpoint fault⟩]

namespace NetworkConfig

def rpcProblems (network : NetworkConfig) : List Problem :=
  if Blank.isBlankText network.rpcEndpoint then [⟨"network.rpc_endpoint", .missing⟩]
  else endpointProblem "network.rpc_endpoint" network.rpcEndpoint

/-- The problem of the endpoint for accounts. -/
def restProblems (network : NetworkConfig) : List Problem :=
  match network.restEndpoint with
  | none => []
  | some endpoint => endpointProblem "network.rest_endpoint" endpoint

/-- The problem of the chain id. For the EVM family it must be a decimal number without blanks. -/
def chainIdProblems (network : NetworkConfig) : List Problem :=
  if Blank.isBlankText network.chainId then [⟨"network.chain_id", .missing⟩]
  else if network.framework = .evm ∧ Decimal.uint64? network.chainId.toList = none then
    [⟨"network.chain_id", .chainId network.chainId⟩]
  else []

def prefixProblems (network : NetworkConfig) : List Problem :=
  if network.framework = .cosmos ∧ Blank.isBlankText network.addressPrefix then
    [⟨"network.address_prefix", .missing⟩]
  else []

/-- The problem of the limit on exchanges. -/
def timeoutProblems (network : NetworkConfig) : List Problem :=
  if network.requestTimeoutSeconds = 0 then [⟨"network.request_timeout_secs", .notPositive⟩]
  else []

def problems (network : NetworkConfig) : List Problem :=
  network.rpcProblems ++ network.restProblems ++ network.chainIdProblems
    ++ network.prefixProblems ++ network.timeoutProblems

end NetworkConfig

def Config.problems (config : Config) : List Problem :=
  config.network.problems
    ++ if config.callSeconds = 0 then [⟨"timeouts.call_secs", .notPositive⟩] else []

end ChainTx
