/-!
Contract: blank characters, as Unicode's property `White_Space` lists them.

Owns: the property, and what it means to trim a text or to find it blank.
-/

set_option autoImplicit false

namespace ChainTx

/-- The code points with the Unicode property `White_Space`. -/
def isBlank (char : Char) : Bool :=
  let point := char.toNat
  (9 ≤ point && point ≤ 13) || point == 0x20 || point == 0x85 || point == 0xA0
    || point == 0x1680 || (0x2000 ≤ point && point ≤ 0x200A)
    || point == 0x2028 || point == 0x2029 || point == 0x202F || point == 0x205F
    || point == 0x3000

namespace Blank

def trimEnd (chars : List Char) : List Char :=
  (chars.reverse.dropWhile isBlank).reverse

def trimChars (chars : List Char) : List Char :=
  trimEnd (chars.dropWhile isBlank)

/-- Drops the blanks at both ends of a text. -/
def trim (text : String) : String :=
  String.ofList (trimChars text.toList)

/-- True of a text that holds blanks only, the empty text included. -/
def isBlankText (text : String) : Bool :=
  text.toList.all isBlank

end Blank

end ChainTx
