import ChainTx.Text.Decimal

/-!
Contract: binary floating-point numbers of 64 bits, read from and written to decimal text.

Owns:
- finite numbers as sign, mantissa and power of two;
- the nearest such number to a decimal, ties to the even mantissa, or nothing when it is too large;
- the shortest decimal that reads back, the nearest one among several, and its text.

Does not own: arithmetic, infinities or the value that is no number.
-/

set_option autoImplicit false

namespace ChainTx

/-- The number `± mantissa * 2 ^ exponent`. A mantissa below `2 ^ 52` goes with exponent -1074. -/
structure Binary64 where
  negative : Bool
  mantissa : Nat
  exponent : Int
deriving DecidableEq, Repr

namespace Binary64

/-- The quotient rounded to the nearest integer, a tie to the even one. -/
def roundQuotient (numerator denominator : Nat) : Nat :=
  let quotient := numerator / denominator
  let remainder := numerator % denominator
  if 2 * remainder < denominator then quotient
  else if denominator < 2 * remainder then quotient + 1
  else if quotient % 2 = 0 then quotient
  else quotient + 1

/-- The ratio scaled by a power of two, as numerator and denominator. -/
def scaleRatio (numerator denominator : Nat) (exponent : Int) : Nat × Nat :=
  if 0 ≤ exponent then (numerator, denominator * 2 ^ exponent.toNat)
  else (numerator * 2 ^ (-exponent).toNat, denominator)

/-- The exponent at which the ratio's mantissa has 53 bits, or -1074 if that is larger. -/
def exponentOf (numerator denominator : Nat) : Int :=
  let guess : Int := (numerator.log2 : Int) - (denominator.log2 : Int) - 52
  let (top, bottom) := scaleRatio numerator denominator guess
  let exact := if top < bottom * 2 ^ 52 then guess - 1 else guess
  if exact < -1074 then -1074 else exact

def ofRatio? (negative : Bool) (numerator denominator : Nat) : Option Binary64 :=
  if numerator = 0 then some ⟨negative, 0, -1074⟩
  else
    let exponent := exponentOf numerator denominator
    let (top, bottom) := scaleRatio numerator denominator exponent
    let mantissa := roundQuotient top bottom
    let (mantissa, exponent) :=
      if mantissa = 2 ^ 53 then (2 ^ 52, exponent + 1) else (mantissa, exponent)
    if 971 < exponent then none else some ⟨negative, mantissa, exponent⟩

/-- The nearest number to `± digits * 10 ^ power`. Powers far outside the range are settled by
magnitude alone. -/
def ofDecimal? (negative : Bool) (digits : Nat) (power : Int) : Option Binary64 :=
  let magnitude : Int := ((Decimal.digits digits).length : Int) + power
  if digits = 0 ∨ magnitude < -400 then some ⟨negative, 0, -1074⟩
  else if 400 < magnitude then none
  else if 0 ≤ power then ofRatio? negative (digits * 10 ^ power.toNat) 1
  else ofRatio? negative digits (10 ^ (-power).toNat)

/-! ## Shortest decimals -/

/-- A decimal `digits * 10 ^ power`. -/
structure Shortest where
  digits : Nat
  power : Int
deriving DecidableEq, Repr

/-- Compares `a * 2 ^ p` with `b * 10 ^ q`: true when the first is less or, if `orEqual`, equal. -/
def below (orEqual : Bool) (a : Nat) (p : Int) (b : Nat) (q : Int) : Bool :=
  let left := a * 2 ^ p.toNat * 10 ^ (-q).toNat
  let right := b * 10 ^ q.toNat * 2 ^ (-p).toNat
  left < right || (orEqual && left == right)

/-- True when the decimal reads back as the number: it lies between the midpoints to the number's
neighbours, which belong to the interval when the mantissa is even. -/
def readsBack (number : Binary64) (digits : Nat) (power : Int) : Bool :=
  let closed := number.mantissa % 2 == 0
  let quarter := number.exponent - 2
  let lower := if number.mantissa = 2 ^ 52 ∧ -1074 < number.exponent
    then 4 * number.mantissa - 1 else 4 * number.mantissa - 2
  let upper := 4 * number.mantissa + 2
  below closed lower quarter digits power
    && !below (!closed) upper quarter digits power

/-- The whole part of the number divided by `10 ^ power`, and twice the rest against the unit. -/
def gridFloor (number : Binary64) (power : Int) : Nat × Bool :=
  let top := number.mantissa * 2 ^ number.exponent.toNat * 10 ^ (-power).toNat
  let bottom := 10 ^ power.toNat * 2 ^ (-number.exponent).toNat
  (top / bottom, 2 * (top % bottom) ≤ bottom)

/-- The decimal on the grid of a power that reads back, the nearer of two. -/
def onGrid (number : Binary64) (power : Int) : Option Shortest :=
  let (floor, lowerIsNearer) := gridFloor number power
  let lower := readsBack number floor power && floor != 0
  let upper := readsBack number (floor + 1) power
  if lower && (lowerIsNearer || !upper) then some ⟨floor, power⟩
  else if upper then some ⟨floor + 1, power⟩
  else none

/-- The first hit on finer and finer grids. -/
def searchGrids (number : Binary64) : Nat → Int → Option Shortest
  | 0, _ => none
  | steps + 1, power =>
      match onGrid number power with
      | some shortest => some shortest
      | none => searchGrids number steps (power - 1)

/-- Removes zeros at the end of the digits. -/
def dropZeros : Nat → Shortest → Shortest
  | 0, shortest => shortest
  | steps + 1, shortest =>
      if shortest.digits % 10 = 0 ∧ shortest.digits ≠ 0 then
        dropZeros steps ⟨shortest.digits / 10, shortest.power + 1⟩
      else shortest

/-- The shortest decimal that reads back as the number. -/
def shortest (number : Binary64) : Shortest :=
  if number.mantissa = 0 then ⟨0, 0⟩
  else
    let bits : Int := (number.mantissa.log2 : Int) + number.exponent
    let start := bits * 30103 / 100000 + 2
    let found := (searchGrids number 24 start).getD ⟨number.mantissa, 0⟩
    dropZeros 24 found

/-- Digits with the point `position` places behind the first digit's left side. -/
def positional (digits : List Char) (position : Int) : List Char :=
  if position ≤ 0 then
    ['0', '.'] ++ List.replicate (-position).toNat '0' ++ digits
  else
    let whole := position.toNat
    if digits.length ≤ whole then
      digits ++ List.replicate (whole - digits.length) '0' ++ ['.', '0']
    else digits.take whole ++ '.' :: digits.drop whole

/-- Digits in scientific form, with the sign of the exponent always written. -/
def scientific (digits : List Char) (position : Int) : List Char :=
  let exponent := position - 1
  let sign := if exponent < 0 then '-' else '+'
  (match digits with
    | [] => []
    | [digit] => [digit]
    | digit :: rest => digit :: '.' :: rest)
    ++ 'e' :: sign :: Decimal.digits exponent.natAbs

/-- The text of a number: positional from 10^-5 up to below 10^16, and with a fraction always. -/
def chars (number : Binary64) : List Char :=
  let shown := number.shortest
  let digits := Decimal.digits shown.digits
  let position : Int := (digits.length : Int) + shown.power
  (if number.negative then ['-'] else []) ++
    if number.mantissa = 0 then ['0', '.', '0']
    else if -5 < position ∧ position ≤ 16 then positional digits position
    else scientific digits position

end Binary64

end ChainTx
