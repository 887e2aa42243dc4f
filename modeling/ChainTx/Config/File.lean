import ChainTx.Config
import ChainTx.Toml.Reader

/-!
Contract: settings as a file writes them down.

Owns: the names of the settings, their forms in a TOML document, and the loading of a file: its bytes
must be UTF-8, the text a document, the document must fit the settings, and the settings must have no
problem. Settings that are left out keep their defaults, and unknown ones are skipped.

Does not own: the document format, and the checks.
-/

set_option autoImplicit false

namespace ChainTx

/-- Why a file gives no settings. -/
inductive LoadFault where
  | missingFile
  | notUtf8
  | malformed
  | rejected (problems : List Problem)
deriving DecidableEq, Repr

def LoadFault.message : LoadFault → String
  | .missingFile => "IO error: No such file or directory (os error 2)"
  | .notUtf8 => "IO error: stream did not contain valid UTF-8"
  | .malformed => "Parse error: malformed settings"
  | .rejected problems =>
      "Validation failed: " ++ ", ".intercalate (problems.map Problem.message)

namespace Config

open Toml

/-- A setting, or its default when it is left out. -/
def setting? {α : Type} (read : Item → Option α) (default : α) : Option Item → Option α
  | none => some default
  | some item => read item

/-- A setting that has no value when it is left out. -/
def optionalSetting? {α : Type} (read : Item → Option α) : Option Item → Option (Option α)
  | none => some none
  | some item => (read item).map some

def framework? (item : Item) : Option Framework :=
  item.word?.bind Framework.ofName?

/-- The names of the settings of a network, in order. -/
def networkNames : List String :=
  ["framework", "rpc_endpoint", "rest_endpoint", "chain_id", "address_prefix",
    "validator_prefix", "sdk_version", "default_gas_limit", "request_timeout_secs"]

def network? (item : Item) : Option NetworkConfig := do
  let default : NetworkConfig := {}
  match ← item.record? networkNames with
  | [framework, rpcEndpoint, restEndpoint, chainId, addressPrefix, validatorPrefix, sdkVersion,
      defaultGasLimit, requestTimeoutSeconds] =>
      let framework ← setting? framework? default.framework framework
      let rpcEndpoint ← setting? Item.text? default.rpcEndpoint rpcEndpoint
      let restEndpoint ← optionalSetting? Item.text? restEndpoint
      let chainId ← setting? Item.text? default.chainId chainId
      let addressPrefix ← setting? Item.text? default.addressPrefix addressPrefix
      let validatorPrefix ← optionalSetting? Item.text? validatorPrefix
      let sdkVersion ← optionalSetting? Item.text? sdkVersion
      let defaultGasLimit ← setting? Item.uint64? default.defaultGasLimit defaultGasLimit
      let requestTimeoutSeconds ←
        setting? Item.uint64? default.requestTimeoutSeconds requestTimeoutSeconds
      some ⟨framework, rpcEndpoint, restEndpoint, chainId, addressPrefix, validatorPrefix,
        sdkVersion, defaultGasLimit, requestTimeoutSeconds⟩
  | _ => none

def callSeconds? (item : Item) : Option UInt64 := do
  let default : Config := {}
  match ← item.record? ["call_secs"] with
  | [callSeconds] => setting? Item.uint64? default.callSeconds callSeconds
  | _ => none

def logs? (item : Item) : Option (String × Bool) := do
  let default : Config := {}
  match ← item.record? ["log_level", "json_logs"] with
  | [logLevel, jsonLogs] =>
      let logLevel ← setting? Item.text? default.logLevel logLevel
      let jsonLogs ← setting? Item.bool? default.jsonLogs jsonLogs
      some (logLevel, jsonLogs)
  | _ => none

def ofDocument? (document : Item) : Option Config := do
  let default : Config := {}
  match ← document.record? ["network", "timeouts", "observability"] with
  | [network, timeouts, observability] =>
      let network ← setting? network? default.network network
      let callSeconds ← setting? callSeconds? default.callSeconds timeouts
      let (logLevel, jsonLogs) ← setting? logs? (default.logLevel, default.jsonLogs) observability
      some ⟨network, callSeconds, logLevel, jsonLogs⟩
  | _ => none

/-- The settings in the bytes of a file, if there is one. -/
def load : Option Bytes → Except LoadFault Config
  | none => .error .missingFile
  | some bytes =>
      match Bytes.toText? bytes with
      | none => .error .notUtf8
      | some text =>
          match (Toml.read? text).bind ofDocument? with
          | none => .error .malformed
          | some config =>
              if config.problems = [] then .ok config else .error (.rejected config.problems)

end Config

end ChainTx
