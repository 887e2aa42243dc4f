import ChainTx.Text.LetterCase
import ChainTx.Url.Address
import ChainTx.Url.Punycode

/-!
Contract: domain names in their ASCII form.

Owns: the mapping of a name (lower case, full-width forms, ideographic dots, ignorable characters),
the characters that a name may not hold, and the spelling of labels with other characters behind the
mark `xn--`. A label that already has the mark must be such a spelling.

Does not own: names with a character that is not covered, which have no form here, whatever the rules
of international names make of them. Such are letters that are composed of others or become several,
combining marks, joiners and the scripts that are written from right to left.
-/

set_option autoImplicit false

namespace ChainTx.Url.Domain

/-- The code points whose form inside a name is known: ASCII, dots and full-width forms, ignorable
characters, and letters of which each is settled by itself, in Latin, Greek, Cyrillic, Japanese,
Chinese and Korean. -/
def coveredRanges : List (Nat × Nat) :=
  [(0x00, 0x7F), (0xAD, 0xAD), (0xC0, 0xD6), (0xD8, 0xF6), (0xF8, 0x12F), (0x131, 0x131),
    (0x134, 0x13E), (0x141, 0x148), (0x14A, 0x17E), (0x386, 0x386), (0x388, 0x38A), (0x38C, 0x38C),
    (0x38E, 0x3A1), (0x3A3, 0x3CE), (0x400, 0x45F), (0x490, 0x491), (0x200B, 0x200B),
    (0x2060, 0x2060), (0x3002, 0x3002), (0x3005, 0x3007), (0x3041, 0x3096), (0x30A1, 0x30FA),
    (0x30FC, 0x30FE), (0x4E00, 0x9FFF), (0xAC00, 0xD7A3), (0xFE00, 0xFE0F), (0xFEFF, 0xFEFF),
    (0xFF01, 0xFF5E), (0xFF61, 0xFF61)]

def isCovered (char : Char) : Bool :=
  coveredRanges.any fun range => range.1 ≤ char.toNat && char.toNat ≤ range.2

def isIgnorable (char : Char) : Bool :=
  let point := char.toNat
  point == 0xAD || point == 0x200B || point == 0x2060 || point == 0xFEFF
    || (0xFE00 ≤ point && point ≤ 0xFE0F)

/-- The form of a character inside a name. -/
def mapChar (char : Char) : Char :=
  let point := char.toNat
  if point == 0x3002 || point == 0xFF0E || point == 0xFF61 then '.'
  else if 0xFF01 ≤ point && point ≤ 0xFF5E then (Char.ofNat (point - 0xFEE0)).toLower
  else LetterCase.toLower char

/-- Characters of ASCII that no name holds. -/
def isForbidden (char : Char) : Bool :=
  char.toNat ≤ 0x20 || char.toNat == 0x7F
    || ['#', '/', ':', '<', '>', '?', '@', '[', '\\', ']', '^', '|', '%'].contains char

/-- True of the characters that a mapped label may hold. -/
def isValid (char : Char) : Bool :=
  if char.toNat < 0x80 then !isForbidden char
  else isCovered char && mapChar char == char && !isIgnorable char

/-- The ASCII form of one mapped label. -/
def labelToAscii? (label : List Char) : Option (List Char) :=
  match label with
  | 'x' :: 'n' :: '-' :: '-' :: spelling =>
      match Punycode.decode? spelling with
      | some decoded =>
          if decoded.all isValid && decoded.any (128 ≤ ·.toNat)
              && Punycode.encode decoded == spelling then some label else none
      | none => none
  | _ =>
      if !label.all isValid then none
      else if label.all (·.toNat < 128) then some label
      else some (['x', 'n', '-', '-'] ++ Punycode.encode label)

/-- The labels of a name, mapped. -/
def mappedLabels (name : List Char) : List (List Char) :=
  splitOnChar '.' ((name.filter (!isIgnorable ·)).map mapChar)

/-- The ASCII form of a name, if all its characters are covered. -/
def toAscii? (name : List Char) : Option (List Char) :=
  if name.all isCovered then ((mappedLabels name).mapM labelToAscii?).map (['.'].intercalate ·)
  else none

end ChainTx.Url.Domain
