import ChainTx.Coin
import ChainTx.Proofs.Text.Cutting
import ChainTx.Proofs.Text.Decimal

/-!
Contract: the two parts of an amount with a denomination.

Owns:
- denominations, said by the code points of their characters, and that these are what is accepted;
- where a text is cut between its leading digits and the rest: digits of every script count, and no
  letter, slash or point does.

Does not own: which numbers the digits may spell.
-/

set_option autoImplicit false

namespace ChainTx.Coin

/-! ## Denominations -/

/-- Characters from `A` to `Z` and from `a` to `z`. -/
def IsAsciiLetter (char : Char) : Prop :=
  65 ≤ char.toNat ∧ char.toNat ≤ 90 ∨ 97 ≤ char.toNat ∧ char.toNat ≤ 122

private theorem isLetter_iff {char : Char} :
    isLetter char = true ↔ IsAsciiLetter char := by
  have upper : char.isUpper = true ↔ 65 ≤ char.toNat ∧ char.toNat ≤ 90 := by
    show decide (65 ≤ char.val ∧ char.val ≤ 90) = true ↔ _
    rw [decide_eq_true_iff, UInt32.le_iff_toNat_le, UInt32.le_iff_toNat_le]
    rfl
  have lower : char.isLower = true ↔ 97 ≤ char.toNat ∧ char.toNat ≤ 122 := by
    show (decide (97 ≤ char.val) && decide (char.val ≤ 122)) = true ↔ _
    rw [Bool.and_eq_true, decide_eq_true_iff, decide_eq_true_iff, UInt32.le_iff_toNat_le,
      UInt32.le_iff_toNat_le]
    rfl
  rw [isLetter, Bool.or_eq_true, upper, lower]
  rfl

/-- An ASCII letter, behind which there may be ASCII letters, ASCII digits and slashes. -/
def IsDenomination (denom : List Char) : Prop :=
  ∃ first rest,
    denom = first :: rest
      ∧ IsAsciiLetter first
      ∧ ∀ char ∈ rest, IsAsciiLetter char ∨ Decimal.IsAsciiDigit char ∨ char = '/'

theorem isDenom_iff {denom : List Char} :
    isDenom denom = true ↔ IsDenomination denom := by
  cases denom with
  | nil => simp [isDenom, IsDenomination]
  | cons first rest =>
      simp [isDenom, IsDenomination, isDenomChar, isLetter_iff, Decimal.isDigit_iff, or_assoc]

/-! ## Leading digits -/

private theorem isDecimalDigit_of_isAsciiDigit
    {char : Char}
    (isDigit : Decimal.IsAsciiDigit char) :
    isDecimalDigit char = true := by
  rw [isDecimalDigit, Decimal.isDigit_iff.mpr isDigit, Bool.true_or]

/-- Below the digits of other scripts there are the ASCII digits only. -/
theorem not_isDecimalDigit_of_ascii
    {char : Char}
    (ascii : char.toNat < 128)
    (notDigit : ¬ Decimal.IsAsciiDigit char) :
    isDecimalDigit char = false := by
  have notAscii : char.isDigit = false := by
    rw [Bool.eq_false_iff, Ne, Decimal.isDigit_iff]
    exact notDigit
  have low : decide (0x80 ≤ char.toNat) = false := decide_eq_false (by omega)
  rw [isDecimalDigit, notAscii, low, Bool.false_and, Bool.or_false]

private theorem not_isDecimalDigit_of_isAsciiLetter
    {char : Char}
    (isLetter : IsAsciiLetter char) :
    isDecimalDigit char = false := by
  rw [IsAsciiLetter] at isLetter
  refine not_isDecimalDigit_of_ascii (by omega) ?_
  rw [Decimal.IsAsciiDigit]
  omega

theorem eq_append_of_splitDigits
    {chars run rest : List Char}
    (cut : splitDigits chars = (run, rest)) :
    chars = run ++ rest := by
  cases cut
  exact List.takeWhile_append_dropWhile.symm

/-- A text is cut behind its leading digits. -/
theorem splitDigits_append
    {run rest : List Char}
    (digits : ∀ char ∈ run, Decimal.IsAsciiDigit char)
    (stops : ∀ char ∈ rest.head?, isDecimalDigit char = false) :
    splitDigits (run ++ rest) = (run, rest) := by
  rw [splitDigits, ← List.span_eq_takeWhile_dropWhile]
  exact span_append_of_forall
    (fun char isIn => isDecimalDigit_of_isAsciiDigit (digits char isIn)) stops

theorem IsDenomination.not_isDecimalDigit_head
    {denom : List Char}
    (isDenom : IsDenomination denom) :
    ∀ char ∈ denom.head?, isDecimalDigit char = false := by
  obtain ⟨first, rest, rfl, isLetter, -⟩ := isDenom
  rintro char ⟨⟩
  exact not_isDecimalDigit_of_isAsciiLetter isLetter

end ChainTx.Coin
