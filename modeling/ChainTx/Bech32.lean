import ChainTx.Bytes
import ChainTx.Text.Decimal
import ChainTx.Text.Quoted

/-!
Contract: Bech32 texts, their human-readable parts and their checksums.

Owns:
- the rules for a human-readable part and the faults against them;
- the 32 digit characters, the regrouping between bytes and five-bit digits, and the checksum;
- the encoder with either checksum constant;
- the reader. It takes both constants, and it drops the bits left over after the last whole byte
  whatever they are.

Does not own: which human-readable part a chain uses.
-/

set_option autoImplicit false

namespace ChainTx.Bech32

abbrev Digit := BitVec 5

abbrev Residue := BitVec 30

/-! ## Human-readable parts -/

/-- What can be wrong with a human-readable part. -/
inductive HrpFault where
  | empty
  /-- Longer than 83 bytes. -/
  | tooLong (byteLength : Nat)
  | nonAscii (char : Char)
  /-- An ASCII character outside the range from `!` to `~`. -/
  | invalidAscii (char : Char)
  | mixedCase
deriving DecidableEq, Repr

def HrpFault.message : HrpFault → String
  | .empty => "hrp is empty, must have at least 1 character"
  | .tooLong byteLength =>
      "hrp is too long, found " ++ Decimal.text byteLength ++ " characters, must be <= 126"
  | .nonAscii char => "found non-ASCII character: " ++ String.singleton char
  | .invalidAscii char =>
      "byte value is not valid US-ASCII: '" ++ String.ofList (Quoted.hexDigits char.toNat) ++ "'"
  | .mixedCase => "hrp cannot mix upper and lower case"

/-- Looks at the characters in order; the flags tell which letter cases came before. -/
def checkHrpChars : Bool → Bool → List Char → Except HrpFault Unit
  | _, _, [] => .ok ()
  | seenLower, seenUpper, char :: rest =>
      if 128 ≤ char.toNat then .error (.nonAscii char)
      else if char.toNat < 33 ∨ 126 < char.toNat then .error (.invalidAscii char)
      else if char.isLower then
        if seenUpper then .error .mixedCase else checkHrpChars true seenUpper rest
      else if char.isUpper then
        if seenLower then .error .mixedCase else checkHrpChars seenLower true rest
      else checkHrpChars seenLower seenUpper rest

/-- Accepts 1 to 83 characters from `!` to `~` whose letters have one case. -/
def checkHrp (hrp : String) : Except HrpFault Unit :=
  if hrp.isEmpty then .error .empty
  else if 83 < hrp.utf8ByteSize then .error (.tooLong hrp.utf8ByteSize)
  else checkHrpChars false false hrp.toList

/-! ## Digits -/

/-- The digit characters in order of value. -/
def charset : List Char :=
  ['q', 'p', 'z', 'r', 'y', '9', 'x', '8', 'g', 'f', '2', 't', 'v', 'd', 'w', '0',
    's', '3', 'j', 'n', '5', '4', 'k', 'h', 'c', 'e', '6', 'm', 'u', 'a', '7', 'l']

/-- The lower-case character of a digit. -/
def digitChar (digit : Digit) : Char :=
  charset.getD digit.toNat 'q'

/-- The digit of a character of either case. -/
def digit? (char : Char) : Option Digit :=
  (charset.idxOf? char.toLower).map (BitVec.ofNat 5)

/-- The bits of a number, most significant first. -/
def bitsOf : Nat → Nat → List Bool
  | 0, _ => []
  | width + 1, number => number.testBit width :: bitsOf width number

/-- The number that bits spell, most significant first. -/
def ofBits (bits : List Bool) : Nat :=
  bits.foldl (fun prior bit => 2 * prior + bit.toNat) 0

/-- Cuts bits into digits of five; zero bits fill up the last digit. -/
def digitsOfBits : List Bool → List Digit
  | a :: b :: c :: d :: e :: rest => BitVec.ofNat 5 (ofBits [a, b, c, d, e]) :: digitsOfBits rest
  | [] => []
  | bits => [BitVec.ofNat 5 (ofBits (bits ++ List.replicate (5 - bits.length) false))]

def digitsOfBytes (bytes : Bytes) : List Digit :=
  digitsOfBits (bytes.flatMap fun byte => bitsOf 8 byte.toNat)

/-- Cuts bits into bytes; fewer than eight bits at the end are dropped. -/
def bytesOfBits : List Bool → Bytes
  | a :: b :: c :: d :: e :: f :: g :: h :: rest =>
      UInt8.ofNat (ofBits [a, b, c, d, e, f, g, h]) :: bytesOfBits rest
  | _ => []

def bytesOfDigits (digits : List Digit) : Bytes :=
  bytesOfBits (digits.flatMap fun digit => bitsOf 5 digit.toNat)

/-! ## Checksum -/

inductive Variant where
  | bech32
  | bech32m
deriving DecidableEq, Repr

/-- The residue of a text with a valid checksum. -/
def Variant.target : Variant → Residue
  | .bech32 => 1#30
  | .bech32m => 0x2BC830A3#30

/-- The contribution of the five bits that leave the state. -/
def feedback (top : Digit) : Residue :=
  let term (bit : Nat) (generator : Residue) : Residue :=
    if top.getLsbD bit then generator else 0#30
  term 0 0x3B6A57B2#30 ^^^ term 1 0x26508E6D#30 ^^^ term 2 0x1EA119FA#30
    ^^^ term 3 0x3D4233DD#30 ^^^ term 4 0x2A1462B3#30

def step (state : Residue) (digit : Digit) : Residue :=
  (state <<< 5) ^^^ digit.zeroExtend 30 ^^^ feedback ((state >>> 25).truncate 5)

def residue (digits : List Digit) : Residue :=
  digits.foldl step 1#30

/-- The digits by which a human-readable part enters the checksum; its case does not matter. -/
def expandHrp (hrp : List Char) : List Digit :=
  let points := hrp.map fun char => char.toLower.toNat
  points.map (fun point => BitVec.ofNat 5 (point / 32)) ++ 0#5
    :: points.map (fun point => BitVec.ofNat 5 (point % 32))

/-- The six digits of a state, most significant first. -/
def residueDigits (state : Residue) : List Digit :=
  [(state >>> 25).truncate 5, (state >>> 20).truncate 5, (state >>> 15).truncate 5,
    (state >>> 10).truncate 5, (state >>> 5).truncate 5, state.truncate 5]

/-- The checksum that makes the residue of the whole text the variant's target. -/
def checksum (variant : Variant) (hrp : List Char) (digits : List Digit) : List Digit :=
  residueDigits
    (residue (expandHrp hrp ++ digits ++ List.replicate 6 0#5) ^^^ variant.target)

/-- True when the digits after the separator end in a checksum of the variant. -/
def hasChecksum (variant : Variant) (hrp : List Char) (digits : List Digit) : Bool :=
  residue (expandHrp hrp ++ digits) == variant.target

/-! ## Texts -/

/-- The text of a payload: the human-readable part, the separator `1`, the digits, the checksum. -/
def encodeWith (variant : Variant) (hrp : String) (payload : Bytes) : String :=
  let digits := digitsOfBytes payload
  hrp ++ "1" ++ String.ofList ((digits ++ checksum variant hrp.toList digits).map digitChar)

/-- The Bech32 text of a payload. -/
def encode (hrp : String) (payload : Bytes) : String :=
  encodeWith .bech32 hrp payload

structure Decoded where
  /-- The human-readable part as it was written. -/
  hrp : String
  payload : Bytes
deriving DecidableEq, Repr

/-- The characters before and after the last separator. -/
def splitLast (chars : List Char) : Option (List Char × List Char) :=
  match chars.reverse.span (· != '1') with
  | (_, []) => none
  | (tailReversed, _ :: headReversed) => some (headReversed.reverse, tailReversed.reverse)

def decode? (text : String) : Option Decoded := do
  let chars := text.toList
  let (hrp, digitChars) ← splitLast chars
  let digits ← digitChars.mapM digit?
  if chars.any Char.isUpper && chars.any Char.isLower then none
  else match checkHrp (String.ofList hrp) with
    | .error _ => none
    | .ok _ =>
        if digits.length < 6 then none
        else if hasChecksum .bech32m hrp digits || hasChecksum .bech32 hrp digits then
          some ⟨String.ofList hrp, bytesOfDigits (digits.take (digits.length - 6))⟩
        else none

end ChainTx.Bech32
