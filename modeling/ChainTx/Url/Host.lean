import ChainTx.Url.Address
import ChainTx.Url.Domain
import ChainTx.Url.Percent

/-!
Contract: hosts of URLs.

Owns: the three kinds of host, the faults of a host or port, the reader for special schemes and the
one for other schemes, and the text of a host.
-/

set_option autoImplicit false

namespace ChainTx.Url

/-- What makes a text no URL. -/
inductive Fault where
  | relativeWithoutBase
  | emptyHost
  | invalidPort
  | invalidIpv4
  | invalidIpv6
  | invalidDomain
  | invalidDomainCharacter
deriving DecidableEq, Repr

def Fault.message : Fault → String
  | .relativeWithoutBase => "relative URL without a base"
  | .emptyHost => "empty host"
  | .invalidPort => "invalid port number"
  | .invalidIpv4 => "invalid IPv4 address"
  | .invalidIpv6 => "invalid IPv6 address"
  | .invalidDomain => "invalid international domain name"
  | .invalidDomainCharacter => "invalid domain character"

inductive Host where
  /-- A registered name in ASCII form, or the opaque host of another scheme. -/
  | name (chars : List Char)
  | ipv4 (address : Nat)
  | ipv6 (pieces : List Nat)
deriving DecidableEq, Repr

namespace Host

/-- The text of a host; version 6 addresses stand in brackets. -/
def chars : Host → List Char
  | .name chars => chars
  | .ipv4 address => Ipv4.text address
  | .ipv6 pieces => '[' :: Ipv6.text pieces ++ [']']

/-- Reads the address between the brackets of a host that starts with one. -/
def readBracketed (text : List Char) : Except Fault Host :=
  if text.getLast? = some ']' then
    match Ipv6.read? (text.tail.dropLast) with
    | some pieces => .ok (.ipv6 pieces)
    | none => .error .invalidIpv6
  else .error .invalidIpv6

/-- Reads the host of a special scheme. -/
def read (text : List Char) : Except Fault Host :=
  if text.head? = some '[' then readBracketed text
  else
    let bytes := Percent.decodeBytes (Bytes.ofText (String.ofList text))
    match (Bytes.toText? bytes).bind fun decoded => Domain.toAscii? decoded.toList with
    | none => .error .invalidDomain
    | some [] => .error .emptyHost
    | some domain =>
        if Ipv4.endsInNumber domain then
          match Ipv4.read? domain with
          | some address => .ok (.ipv4 address)
          | none => .error .invalidIpv4
        else .ok (.name domain)

/-- Characters that an opaque host may not hold. -/
def isForbiddenOpaque (char : Char) : Bool :=
  char == '\x00'
    || ['\t', '\n', '\r', ' ', '#', '/', ':', '<', '>', '?', '@', '[', '\\', ']', '^', '|'].contains
      char

def readOpaque (text : List Char) : Except Fault Host :=
  if text.head? = some '[' then readBracketed text
  else if text.any isForbiddenOpaque then .error .invalidDomainCharacter
  else .ok (.name (Percent.encode Percent.isControl text))

end Host

end ChainTx.Url
