import ChainTx.Json
import ChainTx.Bytes.Hex

/-!
Contract: JSON texts by their grammar.

Owns: the strict grammar, and what a text says by it: a tree in which a number that is too large has
no value, nor a text or name with half of a surrogate pair. A number token without fraction and
exponent, other than `-0`, is an integer when it lies between `-2 ^ 63` and `2 ^ 64 - 1`; every other
number is the nearest floating-point number.

Does not own: how deep a text may nest, and which of its parts must have a value.
-/

set_option autoImplicit false

namespace ChainTx.Json

/-- What a text says by its grammar. -/
inductive Source where
  | null
  | bool (value : Bool)
  | integer (value : Int)
  /-- A number that is no integer, which has no value if it is too large. -/
  | float (value : Option Binary64)
  /-- A text, which has no value if it holds half of a surrogate pair. -/
  | text (value : Option String)
  | array (elements : List Source)
  | object (members : List (Option String × Source))
deriving Inhabited, Repr

namespace Source

def skipBlanks (chars : List Char) : List Char :=
  chars.dropWhile fun char => char == ' ' || char == '\n' || char == '\t' || char == '\r'

/-! ## Texts -/

/-- The four digits of an escape, and the rest. -/
def readUnit? : List Char → Option (Nat × List Char)
  | a :: b :: c :: d :: rest => do
      let w ← Hex.digitValue? a
      let x ← Hex.digitValue? b
      let y ← Hex.digitValue? c
      let z ← Hex.digitValue? d
      some (((w * 16 + x) * 16 + y) * 16 + z, rest)
  | _ => none

/-- The character of an escape behind its backslash, and the rest. Two escapes that form a surrogate
pair are one character; half of a pair is none. -/
def readEscape? : List Char → Option (Option Char × List Char)
  | '"' :: rest => some (some '"', rest)
  | '\\' :: rest => some (some '\\', rest)
  | '/' :: rest => some (some '/', rest)
  | 'b' :: rest => some (some (Char.ofNat 8), rest)
  | 'f' :: rest => some (some (Char.ofNat 12), rest)
  | 'n' :: rest => some (some '\n', rest)
  | 'r' :: rest => some (some '\r', rest)
  | 't' :: rest => some (some '\t', rest)
  | 'u' :: rest => do
      let (high, rest) ← readUnit? rest
      if high < 0xD800 ∨ 0xDFFF < high then some (some (Char.ofNat high), rest)
      else if 0xDBFF < high then some (none, rest)
      else match rest with
        | '\\' :: 'u' :: behind => do
            let (low, behind) ← readUnit? behind
            if low < 0xDC00 ∨ 0xDFFF < low then some (none, rest)
            else
              some (some (Char.ofNat (0x10000 + (high - 0xD800) * 0x400 + (low - 0xDC00))), behind)
        | _ => some (none, rest)
  | _ => none

/-- Reads a text behind its opening quote; `read` holds its characters in reverse, if all of them are
characters. -/
def readText? : Nat → Option (List Char) → List Char → Option (Option String × List Char)
  | 0, _, _ => none
  | _ + 1, _, [] => none
  | _ + 1, read, '"' :: rest => some (read.map fun chars => String.ofList chars.reverse, rest)
  | fuel + 1, read, '\\' :: rest => do
      let (char, rest) ← readEscape? rest
      readText? fuel (char.bind fun char => read.map (char :: ·)) rest
  | fuel + 1, read, char :: rest =>
      if char.toNat < 0x20 then none else readText? fuel (read.map (char :: ·)) rest

/-! ## Numbers -/

def numberOf (negative : Bool) (whole fraction : List Char) (exponent : Option Int) : Source :=
  let value := Decimal.value whole
  if fraction.isEmpty && exponent.isNone && !(negative && value == 0)
      && (if negative then value ≤ 2 ^ 63 else value < 2 ^ 64) then
    .integer (if negative then -(value : Int) else value)
  else
    .float (Binary64.ofDecimal? negative (Decimal.value (whole ++ fraction))
      (exponent.getD 0 - fraction.length))

/-- Reads the fraction of a number: none, or a point and at least one digit. -/
def readFraction? : List Char → Option (List Char × List Char)
  | '.' :: rest =>
      match rest.span Char.isDigit with
      | ([], _) => none
      | (digits, rest) => some (digits, rest)
  | rest => some ([], rest)

/-- Reads the digits of an exponent with its sign. -/
def readExponentDigits? (negative : Bool) (chars : List Char) : Option (Option Int × List Char) :=
  match chars.span Char.isDigit with
  | ([], _) => none
  | (digits, rest) =>
      let value : Int := Decimal.value digits
      some (some (if negative then -value else value), rest)

/-- Reads the exponent of a number, if there is one. -/
def readExponent? : List Char → Option (Option Int × List Char)
  | mark :: rest =>
      if mark = 'e' ∨ mark = 'E' then
        match rest with
        | '+' :: rest => readExponentDigits? false rest
        | '-' :: rest => readExponentDigits? true rest
        | rest => readExponentDigits? false rest
      else some (none, mark :: rest)
  | [] => some (none, [])

def readNumber? (negative : Bool) (chars : List Char) : Option (Source × List Char) := do
  let (whole, rest) := chars.span Char.isDigit
  if whole.isEmpty ∨ (1 < whole.length ∧ whole.head? = some '0') then none
  else
    let (fraction, rest) ← readFraction? rest
    let (exponent, rest) ← readExponent? rest
    some (numberOf negative whole fraction exponent, rest)

/-! ## Values -/

mutual

def readValue? : Nat → List Char → Option (Source × List Char)
  | 0, _ => none
  | fuel + 1, chars =>
      match skipBlanks chars with
      | 'n' :: 'u' :: 'l' :: 'l' :: rest => some (.null, rest)
      | 't' :: 'r' :: 'u' :: 'e' :: rest => some (.bool true, rest)
      | 'f' :: 'a' :: 'l' :: 's' :: 'e' :: rest => some (.bool false, rest)
      | '"' :: rest => (readText? (rest.length + 1) (some []) rest).map fun (value, rest) =>
          (.text value, rest)
      | '-' :: rest => readNumber? true rest
      | '[' :: rest =>
          match skipBlanks rest with
          | ']' :: rest => some (.array [], rest)
          | rest => readElements? fuel [] rest
      | char :: rest =>
          if char.toNat = 0x7B then
            match skipBlanks rest with
            | next :: behind =>
                if next.toNat = 0x7D then some (.object [], behind)
                else readMembers? fuel [] (next :: behind)
            | [] => none
          else readNumber? false (char :: rest)
      | [] => none

/-- Reads elements up to the closing bracket; `read` holds those before, in reverse. -/
def readElements? : Nat → List Source → List Char → Option (Source × List Char)
  | 0, _, _ => none
  | fuel + 1, read, chars =>
      match readValue? fuel chars with
      | none => none
      | some (element, rest) =>
          match skipBlanks rest with
          | ',' :: rest => readElements? fuel (element :: read) rest
          | ']' :: rest => some (.array (element :: read).reverse, rest)
          | _ => none

/-- Reads members up to the closing brace; `read` holds those before, in reverse. -/
def readMembers? :
    Nat → List (Option String × Source) → List Char → Option (Source × List Char)
  | 0, _, _ => none
  | fuel + 1, read, chars =>
      match skipBlanks chars with
      | '"' :: rest =>
          match readText? (rest.length + 1) (some []) rest with
          | none => none
          | some (name, rest) =>
              match skipBlanks rest with
              | ':' :: rest =>
                  match readValue? fuel rest with
                  | none => none
                  | some (value, rest) =>
                      match skipBlanks rest with
                      | ',' :: rest => readMembers? fuel ((name, value) :: read) rest
                      | close :: rest =>
                          if close.toNat = 0x7D then
                            some (.object ((name, value) :: read).reverse, rest)
                          else none
                      | [] => none
              | _ => none
      | _ => none

end

/-- Reads a whole text. -/
def read? (text : String) : Option Source :=
  let chars := text.toList
  match readValue? (2 * chars.length + 2) chars with
  | some (source, rest) => if (skipBlanks rest).isEmpty then some source else none
  | none => none

end Source

end ChainTx.Json
