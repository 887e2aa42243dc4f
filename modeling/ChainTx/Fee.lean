import ChainTx.Coin
import ChainTx.Text.Blank

/-!
Contract: prices of gas, fees, and the gas that a transfer needs.

Owns:
- decimal prices with a denomination, kept as a whole number and a count of fraction digits;
- the fee of the Cosmos family, price times gas limit rounded down;
- the price of the EVM family, a whole amount of wei, and its default;
- the gas of a transfer with data.
-/

set_option autoImplicit false

namespace ChainTx

/-- A price per unit of gas: `digits / 10 ^ scale` of a denomination. -/
structure GasPrice where
  digits : Nat
  /-- How many of the digits stand behind the point. -/
  scale : Nat
  denom : String
deriving DecidableEq, Repr

namespace GasPrice

/-- Splits off the fraction digits behind a point, if there is a point. -/
def splitFraction : List Char → List Char × List Char
  | '.' :: rest => Coin.splitDigits rest
  | chars => ([], chars)

/-- Reads digits, digits with a point behind or inside, or a point with digits behind it, and then
a denomination. The digits are ASCII. -/
def ofChars? (chars : List Char) : Option GasPrice :=
  let (whole, rest) := Coin.splitDigits chars
  let (fraction, denom) := splitFraction rest
  if (whole.isEmpty && fraction.isEmpty) || !Coin.isDenom denom then none
  else
    match Decimal.read? (whole ++ fraction) with
    | some digits => some ⟨digits, fraction.length, String.ofList denom⟩
    | none => none

def parse (raw : String) : Except TxError GasPrice :=
  match ofChars? raw.toList with
  | some price => .ok price
  | none => .error (.validation "gasPrice" (.malformedGasPrice raw))

/-- The cost of an amount of gas, rounded down to whole units. -/
def cost (price : GasPrice) (gasLimit : UInt64) : Nat :=
  price.digits * gasLimit.toNat / 10 ^ price.scale

end GasPrice

/-- A requested price, without blanks around it; a blank request is none. -/
def requestedPrice? (requested : Option String) : Option String :=
  match requested.map Blank.trim with
  | some raw => if raw.isEmpty then none else some raw
  | none => none

/-- The fee of a transaction of the Cosmos family: at most one coin, and none without a price or
for a cost below one unit. -/
def cosmosFee (gasLimit : UInt64) (requested : Option String) : Except TxError (List Coin) :=
  match requestedPrice? requested with
  | none => .ok []
  | some raw => do
      let price ← GasPrice.parse raw
      let total := price.cost gasLimit
      if total = 0 then .ok []
      else if total < 2 ^ 128 then .ok [⟨BitVec.ofNat 128 total, price.denom⟩]
      else .error (.validation "gasPrice" (.feeTooLarge total))

namespace Evm

/-- The price where neither the request nor a node names one: one gigawei. -/
def defaultGasPrice : BitVec 128 := 1000000000

/-- Drops the unit behind an amount of wei. -/
def dropWei (chars : List Char) : List Char :=
  match chars.reverse with
  | 'i' :: 'e' :: 'w' :: rest => rest.reverse
  | _ => chars

/-- Reads a whole amount of wei, with or without its unit. -/
def parseGasPrice (raw : String) : Except TxError (BitVec 128) :=
  let trimmed := Blank.trimChars raw.toList
  let shown := String.ofList trimmed
  match Decimal.read? (dropWei trimmed) with
  | none => .error (.validation "gasPrice" (.malformedWeiPrice shown))
  | some number =>
      if number < 2 ^ 128 then .ok (BitVec.ofNat 128 number)
      else .error (.validation "gasPrice" (.weiPriceTooLarge shown))

/-- The gas of a transfer without data. -/
def transferGas : Nat := 21000

/-- The gas of one byte of data. -/
def byteGas (byte : UInt8) : Nat :=
  if byte = 0 then 4 else 16

/-- The gas of a transfer with data. -/
def intrinsicGas (data : Bytes) : Nat :=
  data.foldl (fun gas byte => gas + byteGas byte) transferGas

end Evm

end ChainTx
