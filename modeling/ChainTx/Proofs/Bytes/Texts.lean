import ChainTx.Bytes.Base64
import ChainTx.Bytes.Hex
import ChainTx.Proofs.Bytes

/-!
Contract: the texts of byte strings tell the bytes.

Owns: for Base64 and for hexadecimal text the law that reading takes back what writing has spelled,
from the law of a single digit and, for Base64, of a group of four.

Does not own: which other texts the readers accept.
-/

set_option autoImplicit false

namespace ChainTx

/-! ## Base64 -/

namespace Base64

private theorem digitValue?_digit
    {number : Nat}
    (small : number < 64) :
    digitValue? (digit number) = some number := by
  have byIndex : ∀ index : Fin 64, digitValue? (digit index.val) = some index.val := by decide
  exact byIndex ⟨number, small⟩

private theorem digit_ne_padding
    {number : Nat}
    (small : number < 64) :
    digit number ≠ '=' := by
  have byIndex : ∀ index : Fin 64, digit index.val ≠ '=' := by decide
  exact byIndex ⟨number, small⟩

/-- A group without padding gives three bytes, whatever follows. -/
theorem decodeChars_group
    {a b c d : Nat}
    (aLt : a < 64)
    (bLt : b < 64)
    (cLt : c < 64)
    (dLt : d < 64)
    (rest : List Char) :
    decodeChars (digit a :: digit b :: digit c :: digit d :: rest)
      = (decodeChars rest).map fun others =>
        UInt8.ofNat (a * 4 + b / 16) :: UInt8.ofNat (b % 16 * 16 + c / 4)
          :: UInt8.ofNat (c % 4 * 64 + d) :: others := by
  have unpadded := digit_ne_padding dLt
  rw [decodeChars]
  · rw [digitValue?_digit aLt, digitValue?_digit bLt, digitValue?_digit cLt, digitValue?_digit dLt]
    cases decodeChars rest <;> rfl
  · intro _ padded
    exact absurd padded unpadded
  · intro padded
    exact absurd padded unpadded

/-- A byte of a number that spells it is that byte. -/
theorem ofNat_eq_of_toNat_eq
    {number : Nat}
    (byte : UInt8)
    (spells : number = byte.toNat) :
    UInt8.ofNat number = byte := by
  rw [spells, UInt8.ofNat_toNat]

private theorem decodeChars_encodeChars (bytes : Bytes) :
    decodeChars (encodeChars bytes) = some bytes := by
  fun_induction encodeChars bytes with
  | case1 => rfl
  | case2 first =>
      have firstLt := first.toNat_lt
      have zeroLeft : first.toNat % 4 * 16 % 16 = 0 := by omega
      have firstBack := ofNat_eq_of_toNat_eq first
        (show first.toNat / 4 * 4 + first.toNat % 4 * 16 / 16 = first.toNat by omega)
      rw [decodeChars, digitValue?_digit (by omega), digitValue?_digit (by omega)]
      change (if first.toNat % 4 * 16 % 16 = 0 then some [UInt8.ofNat _] else none) = _
      rw [if_pos zeroLeft, firstBack]
  | case3 first second =>
      have firstLt := first.toNat_lt
      have secondLt := second.toNat_lt
      have zeroLeft : second.toNat % 16 * 4 % 4 = 0 := by omega
      have firstBack := ofNat_eq_of_toNat_eq first
        (show first.toNat / 4 * 4 + (first.toNat % 4 * 16 + second.toNat / 16) / 16 = first.toNat
          by omega)
      have secondBack := ofNat_eq_of_toNat_eq second
        (show (first.toNat % 4 * 16 + second.toNat / 16) % 16 * 16 + second.toNat % 16 * 4 / 4
          = second.toNat by omega)
      have unpadded := digit_ne_padding (show second.toNat % 16 * 4 < 64 by omega)
      rw [decodeChars]
      · rw [digitValue?_digit (by omega), digitValue?_digit (by omega), digitValue?_digit (by omega)]
        change (if second.toNat % 16 * 4 % 4 = 0 then some [UInt8.ofNat _, UInt8.ofNat _] else none)
          = _
        rw [if_pos zeroLeft, firstBack, secondBack]
      · exact unpadded
  | case4 first second third rest inductionHypothesis =>
      have firstLt := first.toNat_lt
      have secondLt := second.toNat_lt
      have thirdLt := third.toNat_lt
      have firstBack := ofNat_eq_of_toNat_eq first
        (show first.toNat / 4 * 4 + (first.toNat % 4 * 16 + second.toNat / 16) / 16 = first.toNat
          by omega)
      have secondBack := ofNat_eq_of_toNat_eq second
        (show (first.toNat % 4 * 16 + second.toNat / 16) % 16 * 16
          + (second.toNat % 16 * 4 + third.toNat / 64) / 4 = second.toNat by omega)
      have thirdBack := ofNat_eq_of_toNat_eq third
        (show (second.toNat % 16 * 4 + third.toNat / 64) % 4 * 64 + third.toNat % 64 = third.toNat
          by omega)
      rw [decodeChars_group (by omega) (by omega) (by omega) (by omega), inductionHypothesis,
        Option.map_some, firstBack, secondBack, thirdBack]

/-- Reading takes back what writing has spelled. -/
theorem decode?_encode (bytes : Bytes) :
    decode? (encode bytes) = some bytes := by
  rw [decode?, encode, String.toList_ofList, decodeChars_encodeChars]

end Base64

/-! ## Hexadecimal text -/

namespace Hex

private theorem digitValue?_hexDigit
    {number : Nat}
    (small : number < 16) :
    digitValue? (Quoted.hexDigit number) = some number := by
  have byIndex : ∀ index : Fin 16,
      digitValue? (Quoted.hexDigit index.val) = some index.val := by
    decide
  exact byIndex ⟨number, small⟩

private theorem hexDigit_isAscii
    {number : Nat}
    (small : number < 16) :
    (Quoted.hexDigit number).toNat < 128 := by
  have byIndex : ∀ index : Fin 16, (Quoted.hexDigit index.val).toNat < 128 := by decide
  exact byIndex ⟨number, small⟩

private theorem encodeChars_isAscii (bytes : Bytes) :
    ∀ char ∈ encodeChars bytes, char.toNat < 128 := by
  intro char isIn
  obtain ⟨byte, -, isDigit⟩ := List.mem_flatMap.mp isIn
  have byteLt := byte.toNat_lt
  simp only [encodeByte, List.mem_cons, List.not_mem_nil, or_false] at isDigit
  rcases isDigit with rfl | rfl
  · exact hexDigit_isAscii (by omega)
  · exact hexDigit_isAscii (by omega)

/-- The bytes of a text of ASCII, read as Latin-1, are its characters. -/
theorem latin1_of_ascii
    {chars : List Char}
    (ascii : ∀ char ∈ chars, char.toNat < 128) :
    latin1 (String.ofList chars) = chars := by
  have back : ∀ char ∈ chars,
      Char.ofNat (UInt8.ofNat char.toNat).toNat = char := by
    intro char isIn
    have small := ascii char isIn
    rw [UInt8.toNat_ofNat_of_lt' (by change char.toNat < 256; omega), Char.ofNat_toNat]
  rw [latin1, Bytes.ofText_of_ascii ascii, List.map_map]
  exact (List.map_congr_left back).trans (List.map_id chars)

theorem length_encodeChars (bytes : Bytes) :
    (encodeChars bytes).length = 2 * bytes.length := by
  induction bytes with
  | nil => rfl
  | cons byte rest inductionHypothesis =>
      rw [encodeChars, List.flatMap_cons, List.length_append, ← encodeChars, inductionHypothesis]
      simp only [encodeByte, List.length_cons, List.length_nil]
      omega

private theorem decodeFrom_encodeChars (bytes : Bytes) (position : Nat) :
    decodeFrom (encodeChars bytes) position = .ok bytes := by
  induction bytes generalizing position with
  | nil => rfl
  | cons byte rest inductionHypothesis =>
      have byteLt := byte.toNat_lt
      have upper : byte.toNat / 16 < 16 := by omega
      have lower : byte.toNat % 16 < 16 := by omega
      have whole : 16 * (byte.toNat / 16) + byte.toNat % 16 = byte.toNat := by omega
      rw [encodeChars, List.flatMap_cons, ← encodeChars]
      simp only [encodeByte, List.cons_append, List.nil_append]
      rw [decodeFrom, digitAt, digitValue?_hexDigit upper, digitAt, digitValue?_hexDigit lower,
        inductionHypothesis]
      change Except.ok (UInt8.ofNat (16 * (byte.toNat / 16) + byte.toNat % 16) :: rest) = _
      rw [whole, UInt8.ofNat_toNat]

/-- Reading takes back what writing has spelled. -/
theorem decode_encode (bytes : Bytes) :
    decode (encode bytes) = .ok bytes := by
  have even : (encodeChars bytes).length % 2 = 0 := by
    rw [length_encodeChars]
    omega
  rw [decode, encode, latin1_of_ascii (encodeChars_isAscii bytes)]
  simp only [even, if_true, decodeFrom_encodeChars]

end Hex

end ChainTx
