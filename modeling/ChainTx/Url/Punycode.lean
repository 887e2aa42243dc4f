/-!
Contract: Punycode, the ASCII spelling of labels with other characters.

Owns: the encoder and the reader of the bootstring scheme with base 36, thresholds from 1 to 26,
skew 38, damping 700, first bias 72 and first code point 128.

Does not own: the mark `xn--` in front of such labels.
-/

set_option autoImplicit false

namespace ChainTx.Url.Punycode

/-- The digit of a number below 36. -/
def digit (value : Nat) : Char :=
  if value < 26 then Char.ofNat (97 + value) else Char.ofNat (22 + value)

/-- The value of a lower-case digit. -/
def digitValue? (char : Char) : Option Nat :=
  let point := char.toNat
  if 97 ≤ point ∧ point ≤ 122 then some (point - 97)
  else if 48 ≤ point ∧ point ≤ 57 then some (point - 22)
  else none

/-- The threshold of the digit at a position, counted in steps of 36. -/
def threshold (position bias : Nat) : Nat :=
  if position ≤ bias then 1 else if bias + 26 ≤ position then 26 else position - bias

private theorem threshold_bounds (position bias : Nat) :
    1 ≤ threshold position bias ∧ threshold position bias ≤ 26 := by
  unfold threshold
  split
  · omega
  · split <;> omega

/-- Scales a delta down and counts the scalings in steps of 36. -/
def scaleDown (delta steps : Nat) : Nat × Nat :=
  if 455 < delta then scaleDown (delta / 35) (steps + 36) else (delta, steps)
termination_by delta
decreasing_by exact Nat.div_lt_self (by omega) (by omega)

def adapt (delta handled : Nat) (isFirst : Bool) : Nat :=
  let damped := if isFirst then delta / 700 else delta / 2
  let (rest, steps) := scaleDown (damped + damped / handled) 0
  steps + 36 * rest / (rest + 38)

/-- A number as digits of varying base, least significant first. -/
def encodeNumber (bias position number : Nat) : List Char :=
  let limit := threshold position bias
  if number < limit then [digit number]
  else
    digit (limit + (number - limit) % (36 - limit))
      :: encodeNumber bias (position + 36) ((number - limit) / (36 - limit))
termination_by number
decreasing_by
  have bounds := threshold_bounds position bias
  have quotient := Nat.div_le_self
    (number - threshold position bias) (36 - threshold position bias)
  omega

/-- What the encoder carries from one character to the next. -/
structure Encoder where
  output : List Char
  delta : Nat
  bias : Nat
  handled : Nat

/-- Visits one character while the characters equal to `point` are written. -/
def Encoder.visit (basicCount point : Nat) (state : Encoder) (char : Char) : Encoder :=
  if char.toNat < point then { state with delta := state.delta + 1 }
  else if char.toNat = point then
    { output := state.output ++ encodeNumber state.bias 36 state.delta
      delta := 0
      bias := adapt state.delta (state.handled + 1) (state.handled == basicCount)
      handled := state.handled + 1 }
  else state

def insertAscending (value : Nat) : List Nat → List Nat
  | [] => [value]
  | head :: rest =>
      if value < head then value :: head :: rest
      else if value = head then head :: rest
      else head :: insertAscending value rest

/-- Writes the given code points in ascending order. -/
def encodePoints (label : List Char) (basicCount : Nat) :
    List Nat → Nat → Encoder → Encoder
  | [], _, state => state
  | point :: rest, next, state =>
      let widened := { state with delta := state.delta + (point - next) * (state.handled + 1) }
      let written := label.foldl (Encoder.visit basicCount point) widened
      encodePoints label basicCount rest (point + 1) { written with delta := written.delta + 1 }

def encode (label : List Char) : List Char :=
  let basic := label.filter (·.toNat < 128)
  let points := (label.filter (128 ≤ ·.toNat)).foldl
    (fun ascending char => insertAscending char.toNat ascending) []
  let state := encodePoints label basic.length points 128 ⟨[], 0, 72, basic.length⟩
  basic ++ (if basic.isEmpty then [] else ['-']) ++ state.output

/-- Reads one number: its value added to `sum`, and the digits behind it. -/
def decodeNumber (bias : Nat) : List Char → Nat → Nat → Nat → Option (Nat × List Char)
  | [], _, _, _ => none
  | char :: rest, position, weight, sum =>
      match digitValue? char with
      | none => none
      | some value =>
          let limit := threshold position bias
          if value < limit then some (sum + value * weight, rest)
          else decodeNumber bias rest (position + 36) (weight * (36 - limit)) (sum + value * weight)

/-- Reads insertions, one per unit of the first argument at most. -/
def decodeInsertions :
    Nat → List Char → Nat → Nat → Nat → List Char → Option (List Char)
  | _, [], _, _, _, label => some label
  | 0, _ :: _, _, _, _, _ => none
  | rounds + 1, digits, point, index, bias, label =>
      match decodeNumber bias digits 36 1 index with
      | none => none
      | some (total, rest) =>
          let size := label.length + 1
          let nextPoint := point + total / size
          let place := total % size
          if 0x110000 ≤ nextPoint ∨ (0xD800 ≤ nextPoint ∧ nextPoint ≤ 0xDFFF) then none
          else
            decodeInsertions rounds rest nextPoint (place + 1)
              (adapt (total - index) size (index == 0 && point == 128))
              (label.take place ++ Char.ofNat nextPoint :: label.drop place)

def decode? (spelling : List Char) : Option (List Char) :=
  match spelling.reverse.span (· != '-') with
  | (_, []) => decodeInsertions spelling.length spelling 128 0 72 []
  | (digitsReversed, _ :: basicReversed) =>
      decodeInsertions digitsReversed.length digitsReversed.reverse 128 0 72 basicReversed.reverse

end ChainTx.Url.Punycode
