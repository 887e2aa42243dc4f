import ChainTx.Config.File

/-!
Contract: failures as the command line reports them.

Owns: what can make a command fail, and the one-line form in which the failure is shown: the name of
its kind with its parts, texts in quotes.

Does not own: the wordings of the parts.
-/

set_option autoImplicit false

namespace ChainTx

def shownKind (kind content : String) : String :=
  kind ++ "(" ++ Quoted.text content ++ ")"

def shownRecord (kind : String) (parts : List (String × String)) : String :=
  kind ++ " \x7b "
    ++ ", ".intercalate (parts.map fun (name, value) => name ++ ": " ++ value) ++ " \x7d"

def TxError.shown : TxError → String
  | .configuration fault => shownKind "Configuration" fault.message
  | .validation field fault =>
      shownRecord "Validation"
        [("field", Quoted.text field), ("reason", Quoted.text fault.message)]
  | .notFound address => shownRecord "NotFound" [("address", Quoted.text address)]
  | .unsupportedTxType token => shownKind "UnsupportedTxType" token
  | .transport fault => shownKind "Transport" fault.message
  | .timeout operation limit =>
      shownRecord "Timeout" [("operation", Quoted.text operation), ("limit", limit.text)]
  | .cancelled operation => shownKind "Cancelled" operation
  | .rpc code message =>
      shownRecord "Rpc"
        [("code", String.ofList (Json.integerChars code.toInt)), ("message", Quoted.text message)]
  | .api status body =>
      shownRecord "Api" [("status", Decimal.text status), ("body", Quoted.text body)]
  | .signing fault => shownKind "Signing" fault.message
  | .encoding fault => shownKind "Encoding" fault.message

/-- The shown form of a problem with the settings. -/
def Problem.shown (problem : Problem) : String :=
  shownRecord "ValidationError"
    [("field", Quoted.text problem.setting), ("message", Quoted.text problem.fault.message)]

/-- The shown form of a load fault. -/
def LoadFault.shown : LoadFault → String
  | .missingFile => shownKind "Io" "No such file or directory"
  | .notUtf8 => shownKind "Io" "stream did not contain valid UTF-8"
  | .malformed => shownKind "Parse" "malformed settings"
  | .rejected problems => "Validation([" ++ ", ".intercalate (problems.map Problem.shown) ++ "])"

inductive CommandFault where
  | settings (fault : LoadFault)
  | transaction (error : TxError)
  | missingKey
  | payloadText
deriving DecidableEq, Repr

/-- The shown form of a command's failure. -/
def CommandFault.shown : CommandFault → String
  | .settings fault => fault.shown
  | .transaction error => error.shown
  | .missingKey => Quoted.text "TXCTL_PRIVATE_KEY is not set"
  | .payloadText => Quoted.text "--payload is not valid JSON: malformed text"

end ChainTx
