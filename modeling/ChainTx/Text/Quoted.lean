import ChainTx.Text.Printable

/-!
Contract: quoted texts, as messages show the values they complain about.

Owns: the quoted form of a text, between double quotes, and of one character, between single quotes.
A backslash and the enclosing quote are escaped, as are tab, line feed, carriage return and NUL by
their letters; any other character that is hidden or combining is written by its code point.

Does not own: the tables of hidden and combining characters.
-/

set_option autoImplicit false

namespace ChainTx.Quoted

/-- The lower-case hexadecimal digit of a number below sixteen. -/
def hexDigit (digit : Nat) : Char :=
  if digit < 10 then Char.ofNat (48 + digit) else Char.ofNat (87 + digit)

/-- The lower-case hexadecimal digits of a number, without leading zeros. -/
def hexDigits (number : Nat) : List Char :=
  if number < 16 then
    [hexDigit number]
  else
    hexDigits (number / 16) ++ [hexDigit (number % 16)]
termination_by number

/-- The escape of a character by its code point. -/
def codePoint (char : Char) : List Char :=
  ['\\', 'u', Char.ofNat 0x7B] ++ hexDigits char.toNat ++ [Char.ofNat 0x7D]

/-- A character as it stands between two quotes of the given kind. -/
def escape (quote char : Char) : List Char :=
  if char = '\x00' then ['\\', '0']
  else if char = '\t' then ['\\', 't']
  else if char = '\r' then ['\\', 'r']
  else if char = '\n' then ['\\', 'n']
  else if char = '\\' ∨ char = quote then ['\\', char]
  else if Printable.isCombining char then codePoint char
  else if Printable.isPrintable char then [char]
  else codePoint char

def text (value : String) : String :=
  String.ofList ('"' :: value.toList.flatMap (escape '"') ++ ['"'])

def char (value : Char) : String :=
  String.ofList (Char.ofNat 39 :: escape (Char.ofNat 39) value ++ [Char.ofNat 39])

end ChainTx.Quoted
