import ChainTx.Text.Blank
import ChainTx.Text.Decimal
import Mathlib.Data.List.Induction

/-!
Contract: the decimal text of a number tells the number.

Owns:
- the runs that are read as numbers, which are nonempty, of ASCII digits and without blanks;
- the digits of a number as the canonical run of its value, and from it that different numbers have
  different texts;
- runs with zeros in front, which have the same value.

Does not own: decimals with a fraction.
-/

set_option autoImplicit false

namespace ChainTx.Decimal

/-! ## Runs of digits -/

/-- Characters from `0` to `9`. -/
def IsAsciiDigit (char : Char) : Prop :=
  48 ≤ char.toNat ∧ char.toNat ≤ 57

instance (char : Char) : Decidable (IsAsciiDigit char) :=
  inferInstanceAs (Decidable (_ ∧ _))

theorem isDigit_iff {char : Char} :
    char.isDigit = true ↔ IsAsciiDigit char := by
  simp [Char.isDigit, IsAsciiDigit, UInt32.le_iff_toNat_le]

/-- A nonempty run of ASCII digits. -/
def IsRun (run : List Char) : Prop :=
  run ≠ [] ∧ ∀ char ∈ run, IsAsciiDigit char

instance (run : List Char) : Decidable (IsRun run) :=
  @instDecidableAnd _ _ inferInstance (List.decidableBAll IsAsciiDigit run)

/-- Numbers are read from nonempty runs of ASCII digits. -/
theorem read?_eq_some_iff
    {run : List Char}
    {number : Nat} :
    read? run = some number ↔ IsRun run ∧ value run = number := by
  simp only [read?, IsRun, List.all_eq_true, isDigit_iff, Option.ite_none_right_eq_some,
    Option.some.injEq]

/-- Without a sign, numbers of 64 bits are read from the runs whose value is one. -/
theorem uint64?_eq_some_iff
    {run : List Char}
    {number : UInt64}
    (unsigned : '+' ∉ run) :
    uint64? run = some number ↔ IsRun run ∧ value run = number.toNat := by
  have plain : readPlus? run = read? run := by
    unfold readPlus?
    split
    · exact absurd List.mem_cons_self unsigned
    · rfl
  rw [uint64?, plain]
  cases read : read? run with
  | none =>
      have noRun : ¬ IsRun run := fun isRun => by
        rw [read?_eq_some_iff.mpr ⟨isRun, rfl⟩] at read
        cases read
      simp [noRun]
  | some found =>
      obtain ⟨isRun, rfl⟩ := read?_eq_some_iff.mp read
      simp only [Option.ite_none_right_eq_some, Option.some.injEq, isRun, true_and]
      constructor
      · rintro ⟨small, rfl⟩
        exact (UInt64.toNat_ofNat_of_lt small).symm
      · intro same
        rw [same, UInt64.ofNat_toNat]
        exact ⟨number.toNat_lt, rfl⟩

/-! ## Digits of numbers -/

private theorem digitValue_digitChar
    (digit : Nat)
    (digitLt : digit < 10) :
    digitValue (digitChar digit) = digit := by
  have byIndex : ∀ index : Fin 10, digitValue (digitChar index.val) = index.val := by decide
  exact byIndex ⟨digit, digitLt⟩

theorem digitValue_lt
    {digit : Char}
    (isDigit : IsAsciiDigit digit) :
    digitValue digit < 10 := by
  rw [IsAsciiDigit] at isDigit
  rw [digitValue]
  omega

private theorem value_append_singleton (run : List Char) (digit : Char) :
    value (run ++ [digit]) = 10 * value run + digitValue digit := by
  simp only [value, List.foldl_append, List.foldl_cons, List.foldl_nil]

private theorem isAsciiDigit_digitChar
    (digit : Nat)
    (digitLt : digit < 10) :
    IsAsciiDigit (digitChar digit) := by
  have byIndex : ∀ index : Fin 10, (digitChar index.val).isDigit = true := by decide
  exact isDigit_iff.mp (byIndex ⟨digit, digitLt⟩)

/-- The digits that a number is written with: a run of its value, with a zero in front only where it
stands alone. -/
structure IsCanonical (run : List Char) (number : Nat) : Prop where
  isRun : IsRun run
  eq_zero_of_head : run.head? = some '0' → run = ['0']
  value_eq : value run = number

theorem isCanonical_digits (number : Nat) :
    IsCanonical (digits number) number := by
  fun_induction digits number with
  | case1 number small =>
      have isDigit := isAsciiDigit_digitChar number small
      refine ⟨⟨by simp, List.forall_mem_singleton.mpr isDigit⟩, by simp, ?_⟩
      have digit := digitValue_digitChar number small
      simp only [value, List.foldl_cons, List.foldl_nil, digit]
      omega
  | case2 number large inductionHypothesis =>
      have remainderLt : number % 10 < 10 := by omega
      obtain ⟨⟨nonempty, areDigits⟩, eq_zero_of_head, quotient⟩ := inductionHypothesis
      refine ⟨⟨by simp, ?_⟩, ?_, ?_⟩
      · rw [List.forall_mem_append, List.forall_mem_singleton]
        exact ⟨areDigits, isAsciiDigit_digitChar _ remainderLt⟩
      · intro head
        rw [List.head?_append, List.head?_eq_some_head nonempty, Option.some_or,
          ← List.head?_eq_some_head] at head
        -- The digits in front would be a single zero, but their value is not zero.
        rw [eq_zero_of_head head] at quotient
        have zero : value ['0'] = 0 := by decide
        omega
      · rw [value_append_singleton, quotient, digitValue_digitChar _ remainderLt]
        omega

theorem isAsciiDigit_of_mem_digits
    {number : Nat}
    {char : Char}
    (isIn : char ∈ digits number) :
    IsAsciiDigit char :=
  (isCanonical_digits number).isRun.2 char isIn

private theorem value_digits (number : Nat) :
    value (digits number) = number :=
  (isCanonical_digits number).value_eq

/-- Zeros in front do not change a value. -/
theorem value_zeros_append
    (zeros : Nat)
    (run : List Char) :
    value (List.replicate zeros '0' ++ run) = value run := by
  have zero : value (List.replicate zeros '0') = 0 := by
    induction zeros with
    | zero => rfl
    | succ zeros inductionHypothesis =>
        rw [List.replicate_succ', value_append_singleton, inductionHypothesis]
        rfl
  rw [value] at zero
  rw [value, List.foldl_append, zero]
  rfl

/-- The digits of a number with zeros in front are a run of its value. -/
theorem isRun_zeros_append_digits
    (zeros number : Nat) :
    IsRun (List.replicate zeros '0' ++ digits number)
      ∧ value (List.replicate zeros '0' ++ digits number) = number := by
  obtain ⟨⟨nonempty, areDigits⟩, -, same⟩ := isCanonical_digits number
  refine ⟨⟨by simp [nonempty], ?_⟩, by rw [value_zeros_append, same]⟩
  refine List.forall_mem_append.mpr ⟨fun char isIn => ?_, areDigits⟩
  rw [List.eq_of_mem_replicate isIn]
  decide

private theorem digitChar_digitValue
    {digit : Char}
    (isDigit : IsAsciiDigit digit) :
    digitChar (digitValue digit) = digit := by
  rw [IsAsciiDigit] at isDigit
  rw [digitChar, digitValue, Nat.add_sub_cancel' isDigit.1, Char.ofNat_toNat]

/-- Without the zeros in front a run is the digits of its value; for zero nothing is left. -/
theorem dropWhile_zero
    {run : List Char}
    (areDigits : ∀ char ∈ run, IsAsciiDigit char) :
    run.dropWhile (· == '0') = if value run = 0 then [] else digits (value run) := by
  induction run using List.reverseRecOn with
  | nil => rfl
  | append_singleton front last inductionHypothesis =>
      have ⟨frontDigits, lastDigit⟩ := List.forall_mem_append.mp areDigits
      have lastIs := digitChar_digitValue (List.forall_mem_singleton.mp lastDigit)
      have lastLt := digitValue_lt (List.forall_mem_singleton.mp lastDigit)
      rw [List.dropWhile_append, inductionHypothesis frontDigits, value_append_singleton]
      by_cases zero : value front = 0
      · rw [if_pos zero, List.isEmpty_nil, if_pos rfl, zero, Nat.mul_zero, Nat.zero_add]
        by_cases lastZero : digitValue last = 0
        · rw [if_pos lastZero, ← lastIs, lastZero]
          rfl
        · have kept : [last].dropWhile (· == '0') = [last] := by
            refine List.dropWhile_cons_of_neg ?_
            rw [beq_iff_eq]
            rintro rfl
            exact lastZero rfl
          rw [if_neg lastZero, kept, digits, if_pos lastLt, lastIs]
      · have quotient : (10 * value front + digitValue last) / 10 = value front := by omega
        have remainder : (10 * value front + digitValue last) % 10 = digitValue last := by omega
        have nonempty : (digits (value front)).isEmpty = false := by
          rw [List.isEmpty_eq_false_iff]
          exact (isCanonical_digits (value front)).isRun.1
        have longer : digits (10 * value front + digitValue last)
            = digits (value front) ++ [last] := by
          rw [digits, if_neg (by omega), quotient, remainder, lastIs]
        rw [if_neg zero, nonempty, if_neg (by decide), if_neg (by omega), longer]

theorem text_inj
    {left right : Nat}
    (sameText : text left = text right) :
    left = right := by
  have sameDigits : digits left = digits right := String.ofList_injective sameText
  rw [← value_digits left, sameDigits, value_digits]

/-! ## Blanks -/

theorem not_isBlank_of_isAsciiDigit
    {char : Char}
    (isDigit : IsAsciiDigit char) :
    isBlank char = false := by
  rw [IsAsciiDigit] at isDigit
  simp only [isBlank, Bool.or_eq_false_iff, Bool.and_eq_false_iff, decide_eq_false_iff_not,
    beq_eq_false_iff_ne]
  omega

private theorem not_isBlank_of_read?
    {run : List Char}
    {number : Nat}
    (found : read? run = some number) :
    ∀ char ∈ run, isBlank char = false := by
  intro char isIn
  exact not_isBlank_of_isAsciiDigit ((read?_eq_some_iff.mp found).1.2 char isIn)

/-- A number of 64 bits is read from a text without blanks only. -/
theorem not_isBlank_of_uint64?
    {run : List Char}
    {number : UInt64}
    (found : uint64? run = some number) :
    ∀ char ∈ run, isBlank char = false := by
  unfold uint64? at found
  split at found
  · rename_i value read
    unfold readPlus? at read
    split at read
    · exact List.forall_mem_cons.mpr ⟨by decide, not_isBlank_of_read? read⟩
    · exact not_isBlank_of_read? read
  · cases found

end ChainTx.Decimal
