import ChainTx.Error
import ChainTx.Text.Blank
import ChainTx.Url.Reader

/-!
Contract: endpoints of nodes.

Owns: the check that a text is an absolute URL over HTTP, and the texts of URLs below an endpoint.

Does not own: the URL format.
-/

set_option autoImplicit false

namespace ChainTx.Endpoint

/-- Reads an endpoint. A blank text is reported as missing. -/
def parse (text : String) : Except EndpointFault Url :=
  if Blank.isBlankText text then .error .missing
  else
    match Url.read text with
    | .error fault => .error (.unreadable text fault)
    | .ok url =>
        let scheme := String.ofList url.scheme
        if scheme = "http" ∨ scheme = "https" then .ok url
        else .error (.unsupportedScheme text scheme)

/-- Reads an endpoint for use in a builder. -/
def require (text : String) : Except TxError Url :=
  (parse text).mapError fun fault => .configuration (.endpoint fault)

def dropSlashesRight (chars : List Char) : List Char :=
  (chars.reverse.dropWhile (· == '/')).reverse

/-- The text of the URL of a path below an endpoint: one slash stands between the two. -/
def below (endpoint : Url) (path : String) : String :=
  String.ofList
    (dropSlashesRight endpoint.chars ++ '/' :: path.toList.dropWhile (· == '/'))

end ChainTx.Endpoint
