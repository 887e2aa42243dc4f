import ChainTx.CommandLine

/-!
Contract: the help texts of the command line.

Owns: one text for the program and one for each of its commands. The text for the program shows the
variable that stands in for an option, with its value.
-/

set_option autoImplicit false

namespace ChainTx

namespace HelpTopic

/-- Lines with a line break after each. -/
def lines (content : List String) : String :=
  String.join (content.map (· ++ "\n"))

def programText (configVariable : Option String) : String :=
  lines
    ["Build, sign and broadcast devnet transactions",
      "",
      "Usage: txctl [OPTIONS] <COMMAND>",
      "",
      "Commands:",
      "  types  List the transaction types the configured chain supports",
      "  build  Build a transaction (and sign it when a key is available) without sending",
      "  send   Build, sign and broadcast a transaction",
      "  help   Print this message or the help of the given subcommand(s)",
      "",
      "Options:",
      "  -c, --config <CONFIG>  Path to the TOML configuration file [env: TXCTL_CONFIG="
        ++ configVariable.getD "" ++ "] [default: " ++ CommandLine.defaultConfigPath ++ "]",
      "  -h, --help             Print help"]

/-- The help for a command that takes a transaction. -/
def txText (name purpose : String) : String :=
  lines
    [purpose,
      "",
      "Usage: txctl " ++ name
        ++ " [OPTIONS] --tx-type <TX_TYPE> --sender <SENDER> --payload <PAYLOAD>",
      "",
      "Options:",
      "      --tx-type <TX_TYPE>      Transaction type token, e.g. gov_vote or native_transfer",
      "      --sender <SENDER>        Sender address in the chain's native format",
      "      --payload <PAYLOAD>      JSON payload for the transaction type",
      "      --gas-limit <GAS_LIMIT>  Gas limit (0 = framework default) [default: 0]",
      "      --gas-price <GAS_PRICE>  Gas price, e.g. 0.025stake or 2000000000",
      "      --memo <MEMO>            [default: ]",
      "  -h, --help                   Print help"]

def text (configVariable : Option String) : HelpTopic → String
  | .program => programText configVariable
  | .types =>
      lines
        ["List the transaction types the configured chain supports",
          "",
          "Usage: txctl types",
          "",
          "Options:",
          "  -h, --help  Print help"]
  | .build =>
      txText "build" "Build a transaction (and sign it when a key is available) without sending"
  | .send => txText "send" "Build, sign and broadcast a transaction"
  | .help =>
      lines
        ["Print this message or the help of the given subcommand(s)",
          "",
          "Usage: txctl help [COMMAND]...",
          "",
          "Arguments:",
          "  [COMMAND]...  Print help for the subcommand(s)"]

end HelpTopic

end ChainTx
