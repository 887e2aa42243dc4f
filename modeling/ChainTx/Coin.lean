import ChainTx.Error
import ChainTx.Text.DecimalDigit

/-!
Contract: whole amounts of one denomination.

Owns: coins, their text, the grammar of denominations, and the reader of positive amounts.

Does not own: prices with a fraction.
-/

set_option autoImplicit false

namespace ChainTx

structure Coin where
  amount : BitVec 128
  denom : String
deriving DecidableEq, Repr

namespace Coin

/-- The amount and, right behind it, the denomination. -/
def text (coin : Coin) : String :=
  Decimal.text coin.amount.toNat ++ coin.denom

/-- True of the ASCII letters. -/
def isLetter (char : Char) : Bool :=
  char.isUpper || char.isLower

/-- True of the characters that may follow the first letter of a denomination. -/
def isDenomChar (char : Char) : Bool :=
  isLetter char || char.isDigit || char == '/'

/-- A denomination is a letter with letters, digits and slashes behind it. -/
def isDenom : List Char → Bool
  | [] => false
  | first :: rest => isLetter first && rest.all isDenomChar

/-- Splits a text into its leading decimal digits, of any script, and the rest. -/
def splitDigits (chars : List Char) : List Char × List Char :=
  (chars.takeWhile isDecimalDigit, chars.dropWhile isDecimalDigit)

/-- The number of a run of digits, if it has 128 bits; digits outside ASCII have no number. -/
def amount? (run : List Char) : Option (BitVec 128) :=
  match Decimal.read? run with
  | some number => if number < 2 ^ 128 then some (BitVec.ofNat 128 number) else none
  | none => none

/-- Reads digits with a denomination behind them; the amount must not be zero. -/
def parse (field raw : String) : Except TxError Coin :=
  let (run, denom) := splitDigits raw.toList
  if run.isEmpty || !isDenom denom then .error (.validation field (.malformedCoin raw))
  else
    match amount? run with
    | none => .error (.validation field (.coinTooLarge raw))
    | some amount =>
        if amount = 0 then .error (.validation field (.zeroCoin raw))
        else .ok ⟨amount, String.ofList denom⟩

end Coin

end ChainTx
