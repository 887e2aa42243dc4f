import ChainTx.Bytes
import ChainTx.Bytes.Hex

/-!
Contract: percent-encoding of the parts of a URL.

Owns: the sets of characters that each part must write as percent and two upper-case hexadecimal
digits per UTF-8 byte, and the reading of such escapes. Characters outside ASCII are always encoded.
-/

set_option autoImplicit false

namespace ChainTx.Url.Percent

/-- The upper-case hexadecimal digit of a number below sixteen. -/
def upperHexDigit (digit : Nat) : Char :=
  if digit < 10 then Char.ofNat (48 + digit) else Char.ofNat (55 + digit)

def escapeByte (byte : UInt8) : List Char :=
  ['%', upperHexDigit (byte.toNat / 16), upperHexDigit (byte.toNat % 16)]

def isControl (char : Char) : Bool :=
  char.toNat < 0x20 || 0x7E < char.toNat

def inFragmentSet (char : Char) : Bool :=
  isControl char || [' ', '"', '<', '>', '`'].contains char

def inPathSet (char : Char) : Bool :=
  inFragmentSet char || ['#', '?', Char.ofNat 0x7B, Char.ofNat 0x7D].contains char

/-- What a user name or password encodes. -/
def inUserinfoSet (char : Char) : Bool :=
  inPathSet char || ['/', ':', ';', '=', '@', '[', '\\', ']', '^', '|'].contains char

/-- What the query of a special scheme encodes. -/
def inQuerySet (char : Char) : Bool :=
  isControl char || [' ', '"', '#', '<', '>', Char.ofNat 39].contains char

/-- Escapes the characters of the set and leaves the others. -/
def encode (inSet : Char → Bool) (chars : List Char) : List Char :=
  chars.flatMap fun char =>
    if inSet char then (Bytes.ofText (String.singleton char)).flatMap escapeByte else [char]

/-- Reads every escape; a percent sign without two digits stands for itself. -/
def decodeBytes : Bytes → Bytes
  | 0x25 :: high :: low :: rest =>
      match Hex.digitValue? (Char.ofNat high.toNat), Hex.digitValue? (Char.ofNat low.toNat) with
      | some upper, some lower => UInt8.ofNat (16 * upper + lower) :: decodeBytes rest
      | _, _ => 0x25 :: decodeBytes (high :: low :: rest)
  | byte :: rest => byte :: decodeBytes rest
  | [] => []

end ChainTx.Url.Percent
