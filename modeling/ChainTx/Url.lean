import ChainTx.Text.Decimal
import ChainTx.Url.Host

/-!
Contract: URLs in normal form.

Owns: the parts of a URL and its text. The parts hold what the text shows: they are already
percent-encoded, a port is kept only when it is not the scheme's own, and a path that belongs to an
authority of a special scheme starts with a slash.

Does not own: the reading of texts.
-/

set_option autoImplicit false

namespace ChainTx

structure Url.Authority where
  username : List Char
  password : List Char
  host : Url.Host
  port : Option Nat
deriving DecidableEq, Repr

structure Url where
  scheme : List Char
  authority : Option Url.Authority
  path : List Char
  query : Option (List Char)
  fragment : Option (List Char)
deriving DecidableEq, Repr

namespace Url

/-- The text before the host; empty without a user name and a password. -/
def Authority.credentials (authority : Authority) : List Char :=
  if authority.username.isEmpty && authority.password.isEmpty then []
  else if authority.password.isEmpty then authority.username ++ ['@']
  else authority.username ++ ':' :: authority.password ++ ['@']

/-- The text behind the host; empty without a port. -/
def Authority.portSuffix (authority : Authority) : List Char :=
  match authority.port with
  | some port => ':' :: Decimal.digits port
  | none => []

def Authority.chars (authority : Authority) : List Char :=
  authority.credentials ++ authority.host.chars ++ authority.portSuffix

/-- The path and what follows it, up to the fragment: what a request asks a server for. -/
def target (url : Url) : List Char :=
  url.path ++ match url.query with
    | some query => '?' :: query
    | none => []

def chars (url : Url) : List Char :=
  url.scheme ++ ':' :: (match url.authority with
      | some authority => '/' :: '/' :: authority.chars
      | none => [])
    ++ url.target
    ++ match url.fragment with
      | some fragment => '#' :: fragment
      | none => []

def text (url : Url) : String :=
  String.ofList url.chars

end Url

end ChainTx
