import ChainTx.Text.Decimal
import ChainTx.Text.Split

/-!
Contract: the command line as its user writes it.

Owns:
- the commands and their arguments;
- the reading of options, written `--name value` or `--name=value`, and of the short ones, written
  with their value or before it;
- requests for help, which end the reading at once, and misuse: options that are unknown, repeated or
  without a value, values that do not fit, arguments that are missing or too many. Two dashes end the
  options, and as no command takes words, nothing may follow them.

Does not own: what commands do.
-/

set_option autoImplicit false

namespace ChainTx

structure TxArguments where
  txType : String
  sender : String
  payload : String
  gasLimit : UInt64
  gasPrice : Option String
  memo : String
deriving DecidableEq, Repr

inductive Command where
  | types
  | build (arguments : TxArguments)
  | send (arguments : TxArguments)
deriving DecidableEq, Repr

inductive HelpTopic where
  | program
  | types
  | build
  | send
  | help
deriving DecidableEq, Repr

/-- The help topic of a command's name. -/
def HelpTopic.ofName? (name : String) : Option HelpTopic :=
  if name = "types" then some .types
  else if name = "build" then some .build
  else if name = "send" then some .send
  else if name = "help" then some .help
  else none

inductive CommandLine where
  | invocation (configPath : String) (command : Command)
  | help (topic : HelpTopic)
  | misuse
deriving DecidableEq, Repr

namespace CommandLine

/-! ## Options -/

/-- The options of a command: their names, and which letters stand for some of them. -/
structure OptionNames where
  long : List String
  short : List (Char × String)

inductive Token where
  /-- No option. -/
  | word
  | help
  | complete (name value : String)
  /-- An option whose value is the next argument. -/
  | awaiting (name : String)
  /-- Two dashes alone: no option follows. -/
  | lastOption
  | unknown
deriving DecidableEq, Repr

namespace Token

/-- Reads a long option behind its two dashes. -/
def ofLong (names : OptionNames) (chars : List Char) : Token :=
  let name := String.ofList (chars.takeWhile (· != '='))
  let value := chars.dropWhile (· != '=')
  if names.long.contains name then
    match value with
    | _ :: value => .complete name (String.ofList value)
    | [] => .awaiting name
  else if name = "help" ∧ value = [] then .help
  else .unknown

/-- Reads a short option behind its dash. -/
def ofShort (names : OptionNames) (letter : Char) (chars : List Char) : Token :=
  match names.short.lookup letter with
  | some name =>
      match chars with
      | [] => .awaiting name
      | '=' :: value => .complete name (String.ofList value)
      | value => .complete name (String.ofList value)
  | none => if letter = 'h' then .help else .unknown

def read (names : OptionNames) (argument : String) : Token :=
  match argument.toList with
  | ['-', '-'] => .lastOption
  | '-' :: '-' :: chars => ofLong names chars
  | '-' :: letter :: chars => ofShort names letter chars
  | _ => .word

/-- True of arguments that look like options and so are no values. -/
def looksLikeOption (argument : String) : Bool :=
  match argument.toList with
  | '-' :: _ :: _ => true
  | _ => false

end Token

/-- What the options at the front of some arguments come to. -/
inductive Scan where
  | help
  | misuse
  /-- The options with their values, and the arguments from the first word on. -/
  | found (options : List (String × String)) (rest : List String)
deriving DecidableEq, Repr

/-- Adds an option, once, if its value fits. -/
def addOption? (fits : String → String → Bool) (options : List (String × String))
    (name value : String) : Option (List (String × String)) :=
  if (options.lookup name).isSome ∨ fits name value = false then none
  else some (options ++ [(name, value)])

/-- Reads the options at the front of some arguments, up to the first word. -/
def scan (names : OptionNames) (fits : String → String → Bool) :
    List (String × String) → List String → Scan
  | options, [] => .found options []
  | options, [argument] =>
      match Token.read names argument with
      | .word => .found options [argument]
      | .help => .help
      | .complete name value =>
          match addOption? fits options name value with
          | some options => .found options []
          | none => .misuse
      | .lastOption => .found options []
      | _ => .misuse
  | options, argument :: next :: rest =>
      match Token.read names argument with
      | .word => .found options (argument :: next :: rest)
      | .help => .help
      | .complete name value =>
          match addOption? fits options name value with
          | some options => scan names fits options (next :: rest)
          | none => .misuse
      | .awaiting name =>
          if Token.looksLikeOption next then .misuse
          else
            match addOption? fits options name next with
            | some options => scan names fits options rest
            | none => .misuse
      | .lastOption | .unknown => .misuse

/-! ## Commands -/

/-- The options in front of the command. -/
def programOptions : OptionNames :=
  ⟨["config"], [('c', "config")]⟩

def txOptions : OptionNames :=
  ⟨["tx-type", "sender", "payload", "gas-limit", "gas-price", "memo"], []⟩

/-- A path is not empty. -/
def fitsProgram (_ value : String) : Bool :=
  !value.isEmpty

/-- A gas limit is a number of 64 bits. -/
def fitsTx (name value : String) : Bool :=
  name != "gas-limit" || (Decimal.uint64? value.toList).isSome

/-- The arguments that describe a transaction; three of them must be there. -/
def txArguments? (options : List (String × String)) : Option TxArguments := do
  let txType ← options.lookup "tx-type"
  let sender ← options.lookup "sender"
  let payload ← options.lookup "payload"
  let gasLimit := (options.lookup "gas-limit").bind fun text => Decimal.uint64? text.toList
  some ⟨txType, sender, payload, gasLimit.getD 0, options.lookup "gas-price",
    (options.lookup "memo").getD ""⟩

/-- Reads the arguments of a command that describe a transaction. -/
def readTx (configPath : Option String) (topic : HelpTopic) (command : TxArguments → Command)
    (arguments : List String) : CommandLine :=
  match scan txOptions fitsTx [] arguments with
  | .help => .help topic
  | .found options [] =>
      match txArguments? options, configPath with
      | some arguments, some configPath => .invocation configPath (command arguments)
      | _, _ => .misuse
  | _ => .misuse

/-- Reads the arguments of a command that takes none. -/
def readTypes (configPath : Option String) (arguments : List String) : CommandLine :=
  match scan ⟨[], []⟩ fitsTx [] arguments with
  | .help => .help .types
  | .found _ [] =>
      match configPath with
      | some configPath => .invocation configPath .types
      | none => .misuse
  | _ => .misuse

def readHelp : List String → CommandLine
  | [] => .help .program
  | [name] =>
      match HelpTopic.ofName? name with
      | some topic => .help topic
      | none => .misuse
  | _ => .misuse

/-- Where the settings are when nobody says so. -/
def defaultConfigPath : String := "txctl.toml"

/-- Where the settings are: as an option says, else as the environment says, else at the default
place. An empty path is no path. -/
def configPath? (options : List (String × String)) (stated : Option String) : Option String :=
  match (options.lookup "config").or stated with
  | some path => if path.isEmpty then none else some path
  | none => some defaultConfigPath

/-- Reads a command line. The variable of the environment stands in for the option. -/
def read (configVariable : Option String) (arguments : List String) : CommandLine :=
  match scan programOptions fitsProgram [] arguments with
  | .help => .help .program
  | .misuse => .misuse
  | .found _ [] => .misuse
  | .found options (command :: rest) =>
      let configPath := configPath? options configVariable
      if command = "types" then readTypes configPath rest
      else if command = "build" then readTx configPath .build .build rest
      else if command = "send" then readTx configPath .send .send rest
      else if command = "help" then readHelp rest
      else .misuse

end CommandLine

end ChainTx
