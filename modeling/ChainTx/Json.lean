import ChainTx.Json.Binary64
import ChainTx.Text.Quoted

/-!
Contract: JSON values and their texts.

Owns:
- values, with integers and floating-point numbers apart;
- the canonical form of a value, in which the members of every object are sorted by name and the last
  of several members with one name stays;
- the compact text and the indented text.

Does not own: the reading of texts.
-/

set_option autoImplicit false

namespace ChainTx

/-- A JSON value. Integers lie between `-2 ^ 63` and `2 ^ 64 - 1` when they come from a text. -/
inductive Json where
  | null
  | bool (value : Bool)
  | integer (value : Int)
  | float (value : Binary64)
  | string (value : String)
  | array (elements : List Json)
  | object (members : List (String × Json))
deriving Inhabited, Repr, BEq

namespace Json

/-- The member of an object with a name; nothing for other values. -/
def get? (name : String) : Json → Option Json
  | .object members => members.lookup name
  | _ => none

def string? : Json → Option String
  | .string value => some value
  | _ => none

/-- The number of an integer value from 0 to `2 ^ 64 - 1`. -/
def uint64? : Json → Option UInt64
  | .integer value =>
      if 0 ≤ value ∧ value < 2 ^ 64 then some (UInt64.ofNat value.toNat) else none
  | _ => none

/-- True of an object. -/
def isObject : Json → Bool
  | .object _ => true
  | _ => false

/-- Puts a member into a list sorted by name, in place of one with the same name. -/
def insertMember (name : String) (value : Json) : List (String × Json) → List (String × Json)
  | [] => [(name, value)]
  | (other, held) :: rest =>
      if name < other then (name, value) :: (other, held) :: rest
      else if name = other then (name, value) :: rest
      else (other, held) :: insertMember name value rest

mutual

/-- Sorts the members of all objects; the last of several members with one name stays. -/
def canonical : Json → Json
  | .array elements => .array (canonicalElements elements)
  | .object members => .object (canonicalMembers [] members)
  | value => value

/-- The canonical forms of the elements of an array. -/
def canonicalElements : List Json → List Json
  | [] => []
  | element :: rest => element.canonical :: canonicalElements rest

/-- Adds the canonical forms of members, in order, to a sorted list. -/
def canonicalMembers :
    List (String × Json) → List (String × Json) → List (String × Json)
  | sorted, [] => sorted
  | sorted, (name, value) :: rest =>
      canonicalMembers (insertMember name value.canonical sorted) rest

end

/-! ## Texts -/

def escapeChar (char : Char) : List Char :=
  if char = '"' then ['\\', '"']
  else if char = '\\' then ['\\', '\\']
  else if char = '\n' then ['\\', 'n']
  else if char = '\r' then ['\\', 'r']
  else if char = '\t' then ['\\', 't']
  else if char.toNat = 8 then ['\\', 'b']
  else if char.toNat = 12 then ['\\', 'f']
  else if char.toNat < 0x20 then
    ['\\', 'u', '0', '0', Quoted.hexDigit (char.toNat / 16), Quoted.hexDigit (char.toNat % 16)]
  else [char]

def stringChars (value : String) : List Char :=
  '"' :: value.toList.flatMap escapeChar ++ ['"']

def integerChars (value : Int) : List Char :=
  if value < 0 then '-' :: Decimal.digits value.natAbs else Decimal.digits value.natAbs

mutual

/-- The text without blanks. -/
def compactChars : Json → List Char
  | .null => ['n', 'u', 'l', 'l']
  | .bool true => ['t', 'r', 'u', 'e']
  | .bool false => ['f', 'a', 'l', 's', 'e']
  | .integer value => integerChars value
  | .float value => value.chars
  | .string value => stringChars value
  | .array elements => '[' :: compactElements elements ++ [']']
  | .object members => Char.ofNat 0x7B :: compactMembers members ++ [Char.ofNat 0x7D]

def compactElements : List Json → List Char
  | [] => []
  | [element] => element.compactChars
  | element :: rest => element.compactChars ++ ',' :: compactElements rest

def compactMembers : List (String × Json) → List Char
  | [] => []
  | [(name, value)] => stringChars name ++ ':' :: value.compactChars
  | (name, value) :: rest =>
      stringChars name ++ ':' :: value.compactChars ++ ',' :: compactMembers rest

end

/-- The text without blanks. -/
def compact (value : Json) : String :=
  String.ofList value.compactChars

/-- A line break and the indentation of a level, two spaces each. -/
def newLine (level : Nat) : List Char :=
  '\n' :: List.replicate (2 * level) ' '

mutual

/-- The text with one element or member per line, inside a level. -/
def indentedChars (level : Nat) : Json → List Char
  | .array [] => ['[', ']']
  | .array elements =>
      '[' :: indentedElements (level + 1) elements ++ newLine level ++ [']']
  | .object [] => [Char.ofNat 0x7B, Char.ofNat 0x7D]
  | .object members =>
      Char.ofNat 0x7B :: indentedMembers (level + 1) members ++ newLine level ++ [Char.ofNat 0x7D]
  | .null => ['n', 'u', 'l', 'l']
  | .bool true => ['t', 'r', 'u', 'e']
  | .bool false => ['f', 'a', 'l', 's', 'e']
  | .integer value => integerChars value
  | .float value => value.chars
  | .string value => stringChars value

/-- Elements, each on a line of its own. -/
def indentedElements (level : Nat) : List Json → List Char
  | [] => []
  | [element] => newLine level ++ element.indentedChars level
  | element :: rest =>
      newLine level ++ element.indentedChars level ++ ',' :: indentedElements level rest

/-- Members, each on a line of its own. -/
def indentedMembers (level : Nat) : List (String × Json) → List Char
  | [] => []
  | [(name, value)] =>
      newLine level ++ stringChars name ++ ':' :: ' ' :: value.indentedChars level
  | (name, value) :: rest =>
      newLine level ++ stringChars name ++ ':' :: ' ' :: value.indentedChars level
        ++ ',' :: indentedMembers level rest

end

/-- The text with one element or member per line. -/
def indented (value : Json) : String :=
  String.ofList (value.indentedChars 0)

end Json

end ChainTx
