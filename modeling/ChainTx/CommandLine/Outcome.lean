import ChainTx.Builder
import ChainTx.CommandLine.Help
import ChainTx.CommandLine.Report
import ChainTx.Json.Reader

/-!
Contract: what becomes of a command line.

Owns:
- the outcome of a run: the exit code, the output, and the failure that is reported;
- the commands. All of them load the settings and connect first. A transaction is built, signed if
  there is a key, and handed over if that was asked for; a refusal by the chain is printed and shows
  in the exit code.

Does not own: the reading of the command line.
-/

set_option autoImplicit false

namespace ChainTx

structure Environment where
  /-- Where the settings are, if that is said. -/
  configVariable : Option String
  keyVariable : Option String
  readFile : String → Option Bytes

structure Outcome where
  exitCode : Nat
  output : String
  fault : Option CommandFault
deriving DecidableEq, Repr

abbrev Job (α : Type) : Type := ExceptT CommandFault (StateM CallState) α

namespace Job

def call {α : Type} (work : Call α) : Job α :=
  fun calls =>
    match work.run calls with
    | (.ok value, calls) => (.ok value, calls)
    | (.error error, calls) => (.error (.transaction error), calls)

/-- What is checked without any call. -/
def check {α : Type} (result : Except TxError α) : Job α :=
  call (Call.ofExcept result)

/-- The private key of a sender, if there is one. -/
def signingKey (environment : Environment) (sender : String) : Job (Option SigningKey) := do
  match environment.keyVariable with
  | some text => do
      let key ← check (SigningKey.ofHex sender text)
      pure (some key)
  | none => pure none

/-- The public key that goes into a transaction: that of the private key, in the Cosmos family. -/
def publicKey (framework : Framework) : Option SigningKey → Except TxError (Option Bytes)
  | some key =>
      match framework with
      | .cosmos => do
          let privateKey ← SigningKey.load .cosmos key.bytes
          .ok (some (Cosmos.compressedPublicKey privateKey))
      | .evm => .ok none
  | none => .ok none

def request (framework : Framework) (arguments : TxArguments) (key : Option SigningKey) :
    Job BuildRequest := do
  let type ← check (TxType.parse arguments.txType)
  match Json.read? arguments.payload with
  | none => throw .payloadText
  | some payload => do
      let publicKey ← check (publicKey framework key)
      pure ⟨type, arguments.sender, "", payload, arguments.gasLimit, arguments.gasPrice,
        arguments.memo, publicKey⟩

def printed (value : Json) : String :=
  value.canonical.indented ++ "\n"

/-- What a chain is and what it accepts. -/
def describe (builder : Builder) : Json :=
  .object
    [("framework", .string builder.app.framework.name),
      ("version", .string builder.app.version),
      ("features", .array (builder.app.features.map fun feature => .string feature.name)),
      ("tx_types", .array (builder.txTypes.map fun type => .string type.token))]

/-- The printed members of an unsigned transaction. -/
def unsignedMembers (unsigned : UnsignedTx) : List (String × Json) :=
  [("tx_bytes", .string (Hex.encode unsigned.txBytes)),
    ("sign_doc", .string (Hex.encode unsigned.signDoc)),
    ("account_number", .integer unsigned.accountNumber.toNat),
    ("sequence", .integer unsigned.sequence.toNat)]

/-- Builds a transaction, and signs it if there is a key. -/
def build (environment : Environment) (context : CallContext) (builder : Builder)
    (arguments : TxArguments) : Job String := do
  let key ← signingKey environment arguments.sender
  let request ← request builder.framework arguments key
  let unsigned ← call (builder.build context request)
  match key with
  | some key => do
      let signed ← call (builder.sign unsigned key)
      pure (printed (.object (unsignedMembers unsigned
        ++ [("signed_tx_bytes", .string (Hex.encode signed.txBytes))])))
  | none => pure (printed (.object (unsignedMembers unsigned)))

/-- Builds, signs and hands over a transaction. -/
def send (environment : Environment) (context : CallContext) (builder : Builder)
    (arguments : TxArguments) : Job BroadcastResult := do
  match ← signingKey environment arguments.sender with
  | none => throw .missingKey
  | some key => do
      let request ← request builder.framework arguments (some key)
      let unsigned ← call (builder.build context request)
      let signed ← call (builder.sign unsigned key)
      call (builder.broadcast context signed)

/-- The printed form of a broadcast's outcome. -/
def broadcastText (result : BroadcastResult) : String :=
  printed (.object
    [("tx_hash", .string result.txHash), ("code", .integer result.code.toInt),
      ("log", .string result.log)])

def settings (environment : Environment) (path : String) : Job Config :=
  match Config.load (environment.readFile path) with
  | .ok config => pure config
  | .error fault => throw (.settings fault)

/-- Runs a command: its output, and whether it counts as a success. -/
def perform (environment : Environment) (configPath : String) (command : Command) :
    Job (String × Bool) := do
  let config ← settings environment configPath
  let context := CallContext.withTimeout config.callTimeout
  let builder ← call (Builder.connect config.network context)
  match command with
  | .types => pure (printed (describe builder), true)
  | .build arguments => do
      let output ← build environment context builder arguments
      pure (output, true)
  | .send arguments => do
      let result ← send environment context builder arguments
      pure (broadcastText result, result.isAccepted)

end Job

namespace Outcome

/-- The exit code of misuse and of refused transactions. -/
def refusalCode : Nat := 2

/-- The outcome of a command at work. -/
def ofResult : Except CommandFault (String × Bool) → Outcome
  | .ok (output, success) => ⟨if success then 0 else refusalCode, output, none⟩
  | .error fault => ⟨1, "", some fault⟩

def ofCommandLine (environment : Environment) :
    CommandLine → StateM CallState Outcome
  | .help topic => pure ⟨0, topic.text environment.configVariable, none⟩
  | .misuse => pure ⟨refusalCode, "", none⟩
  | .invocation configPath command => do
      let result ← (Job.perform environment configPath command).run
      pure (ofResult result)

def ofArguments (environment : Environment) (arguments : List String) :
    StateM CallState Outcome :=
  ofCommandLine environment (CommandLine.read environment.configVariable arguments)

end Outcome

end ChainTx
