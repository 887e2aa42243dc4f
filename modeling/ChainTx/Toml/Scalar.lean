import ChainTx.Bytes.Hex
import ChainTx.Json.Binary64
import ChainTx.Toml

/-!
Contract: numbers, truth values and points in time in TOML documents.

Owns:
- integers of 64 bits with a sign, in four bases, with underscores between digits;
- floating-point numbers, which may not be too large;
- dates, times of day and both together, with the checks of their parts.

A reader takes its value from the front of the characters and returns what follows.

Does not own: texts, arrays and tables.
-/

set_option autoImplicit false

namespace ChainTx.Toml

/-! ## Numbers -/

/-- Reads digits; an underscore stands between two of them. -/
def readDigits? (isDigit : Char → Bool) : List Char → Option (List Char × List Char)
  | [] => none
  | [char] => if isDigit char then some ([char], []) else none
  | char :: '_' :: rest =>
      if isDigit char then
        (readDigits? isDigit rest).map fun (digits, rest) => (char :: digits, rest)
      else none
  | char :: next :: rest =>
      if isDigit char then
        if isDigit next then
          (readDigits? isDigit (next :: rest)).map fun (digits, rest) => (char :: digits, rest)
        else some ([char], next :: rest)
      else none

/-- Reads the whole part of a decimal number: zero, or digits that do not start with zero. -/
def readWhole? : List Char → Option (List Char × List Char)
  | '0' :: rest => some (['0'], rest)
  | chars => readDigits? Char.isDigit chars

/-- Reads a sign, if there is one; true of a minus. -/
def readSign : List Char → Bool × List Char
  | '+' :: rest => (false, rest)
  | '-' :: rest => (true, rest)
  | chars => (false, chars)

/-- An integer, if it has 64 bits. -/
def integerItem? (value : Int) : Option Item :=
  if -2 ^ 63 ≤ value ∧ value < 2 ^ 63 then some (.integer value) else none

/-- True of the digits of a base up to sixteen. -/
def isDigitOf (base : Nat) (char : Char) : Bool :=
  match Hex.digitValue? char with
  | some digit => digit < base
  | none => false

/-- Reads a number in a base behind its mark. -/
def readBased? (base : Nat) (chars : List Char) : Option (Item × List Char) := do
  let (digits, rest) ← readDigits? (isDigitOf base) chars
  let value := digits.foldl (fun prior digit => base * prior + (Hex.digitValue? digit).getD 0) 0
  let item ← integerItem? value
  some (item, rest)

/-- A floating-point number, unless it is too large. -/
def floatItem? (negative : Bool) (whole fraction : List Char) (exponent : Int) : Option Item :=
  if negative then some .float
  else
    (Binary64.ofDecimal? false (Decimal.value (whole ++ fraction)) (exponent - fraction.length)).map
      fun _ => .float

/-- Reads the fraction of a number: none, or a point and digits. -/
def readFraction? : List Char → Option (Option (List Char) × List Char)
  | '.' :: rest => (readDigits? Char.isDigit rest).map fun (digits, rest) => (some digits, rest)
  | chars => some (none, chars)

/-- Reads the exponent of a number, if there is one. -/
def readExponent? : List Char → Option (Option Int × List Char)
  | [] => some (none, [])
  | mark :: rest =>
      if mark = 'e' ∨ mark = 'E' then
        let (negative, rest) := readSign rest
        (readDigits? Char.isDigit rest).map fun (digits, rest) =>
          let value : Int := Decimal.value digits
          (some (if negative then -value else value), rest)
      else some (none, mark :: rest)

/-- Reads a decimal number behind its sign. -/
def readDecimal? (negative : Bool) (chars : List Char) : Option (Item × List Char) := do
  let (whole, rest) ← readWhole? chars
  let (fraction, rest) ← readFraction? rest
  let (exponent, rest) ← readExponent? rest
  let value : Int := Decimal.value whole
  let item ←
    if fraction.isNone && exponent.isNone then integerItem? (if negative then -value else value)
    else floatItem? negative whole (fraction.getD []) (exponent.getD 0)
  some (item, rest)

/-- Reads a number, sign and mark of the base included. -/
def readNumber? : List Char → Option (Item × List Char)
  | '0' :: 'x' :: rest => readBased? 16 rest
  | '0' :: 'o' :: rest => readBased? 8 rest
  | '0' :: 'b' :: rest => readBased? 2 rest
  | chars =>
      match readSign chars with
      | (_, 'i' :: 'n' :: 'f' :: rest) => some (.float, rest)
      | (_, 'n' :: 'a' :: 'n' :: rest) => some (.float, rest)
      | (negative, rest) => readDecimal? negative rest

/-! ## Points in time -/

/-- Reads exactly so many digits as a number in a range. -/
def readPart? (count least most : Nat) (chars : List Char) : Option (Nat × List Char) :=
  let digits := chars.take count
  let value := Decimal.value digits
  if digits.length = count ∧ digits.all Char.isDigit ∧ least ≤ value ∧ value ≤ most then
    some (value, chars.drop count)
  else none

/-- Drops one character that must be there. -/
def afterChar? (char : Char) : List Char → Option (List Char)
  | first :: rest => if first = char then some rest else none
  | [] => none

/-- True of the years with a leap day. -/
def isLeapYear (year : Nat) : Bool :=
  year % 4 == 0 && (year % 100 != 0 || year % 400 == 0)

/-- The number of days in a month. -/
def daysInMonth (year month : Nat) : Nat :=
  if month = 2 then if isLeapYear year then 29 else 28
  else if [4, 6, 9, 11].contains month then 30
  else 31

def afterDate? (chars : List Char) : Option (List Char) := do
  let (year, rest) ← readPart? 4 0 9999 chars
  let (month, rest) ← readPart? 2 1 12 (← afterChar? '-' rest)
  let (_, rest) ← readPart? 2 1 (daysInMonth year month) (← afterChar? '-' rest)
  some rest

/-- Drops the fraction of a second, if there is one. -/
def afterSubsecond? : List Char → Option (List Char)
  | '.' :: rest =>
      match rest.span Char.isDigit with
      | ([], _) => none
      | (_, rest) => some rest
  | chars => some chars

/-- Drops a time of day. A second may be a leap second. -/
def afterTime? (chars : List Char) : Option (List Char) := do
  let (_, rest) ← readPart? 2 0 23 chars
  let (_, rest) ← readPart? 2 0 59 (← afterChar? ':' rest)
  let (_, rest) ← readPart? 2 0 60 (← afterChar? ':' rest)
  afterSubsecond? rest

/-- Drops the distance of a time zone, if there is one. -/
def afterZone? : List Char → Option (List Char)
  | [] => some []
  | mark :: rest =>
      if mark = 'Z' ∨ mark = 'z' then some rest
      else if mark = '+' ∨ mark = '-' then do
        let (_, rest) ← readPart? 2 0 23 rest
        let (_, rest) ← readPart? 2 0 59 (← afterChar? ':' rest)
        some rest
      else some (mark :: rest)

/-- True where a time of day follows a date. -/
def opensTime : List Char → Bool
  | ' ' :: next :: _ => next.isDigit
  | mark :: _ => mark == 'T' || mark == 't'
  | [] => false

/-- True of characters that open a date. -/
def opensDate (chars : List Char) : Bool :=
  (chars.take 4).length == 4 && (chars.take 4).all Char.isDigit && (chars.drop 4).head? == some '-'

/-- True of characters that open a time of day without a date. -/
def opensClock (chars : List Char) : Bool :=
  (chars.take 2).length == 2 && (chars.take 2).all Char.isDigit && (chars.drop 2).head? == some ':'

/-- Drops a date and the time of day that may follow it. -/
def afterDateTime? (chars : List Char) : Option (List Char) := do
  let rest ← afterDate? chars
  if opensTime rest then
    let rest ← afterTime? (rest.drop 1)
    afterZone? rest
  else some rest

/-! ## Values of all these kinds -/

/-- Reads a value that is no text and has no parts. -/
def readScalar? (chars : List Char) : Option (Item × List Char) :=
  match chars with
  | 't' :: 'r' :: 'u' :: 'e' :: rest => some (.bool true, rest)
  | 'f' :: 'a' :: 'l' :: 's' :: 'e' :: rest => some (.bool false, rest)
  | chars =>
      if opensDate chars then (afterDateTime? chars).map fun rest => (.time, rest)
      else if opensClock chars then (afterTime? chars).map fun rest => (.time, rest)
      else readNumber? chars

end ChainTx.Toml
