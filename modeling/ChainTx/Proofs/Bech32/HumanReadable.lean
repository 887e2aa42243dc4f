import ChainTx.Bech32
import ChainTx.Proofs.Bytes

/-!
Contract: which texts are human-readable parts.

Owns:
- the human-readable parts, said without the check: one to 83 characters from `!` to `~` whose
  letters have one case;
- that the check accepts these and no other;
- which of them stay human-readable parts with lower-case letters behind them.

Does not own: which faults the check names.
-/

set_option autoImplicit false

namespace ChainTx.Bech32

/-- Characters from `!` to `~`. -/
def IsPrintable (chars : List Char) : Prop :=
  ∀ char ∈ chars, 33 ≤ char.toNat ∧ char.toNat ≤ 126

def HasNoUpper (chars : List Char) : Prop :=
  ∀ char ∈ chars, char.isUpper = false

def HasNoLower (chars : List Char) : Prop :=
  ∀ char ∈ chars, char.isLower = false

instance (chars : List Char) : Decidable (IsPrintable chars) :=
  List.decidableBAll (fun char : Char => 33 ≤ char.toNat ∧ char.toNat ≤ 126) chars

instance (chars : List Char) : Decidable (HasNoUpper chars) :=
  List.decidableBAll (fun char : Char => char.isUpper = false) chars

/-- One to 83 characters from `!` to `~` whose letters have one case. -/
structure IsHrp (hrp : String) : Prop where
  nonempty : hrp ≠ ""
  short : hrp.length ≤ 83
  printable : IsPrintable hrp.toList
  oneCase : HasNoUpper hrp.toList ∨ HasNoLower hrp.toList

private theorem not_isUpper_of_isLower
    {char : Char}
    (isLower : char.isLower = true) :
    char.isUpper = false := by
  unfold Char.isLower at isLower
  unfold Char.isUpper
  simp only [Bool.and_eq_true, decide_eq_true_eq, ge_iff_le, UInt32.le_iff_toNat_le] at isLower
  have above : 97 ≤ char.val.toNat := isLower.1
  simp only [ge_iff_le, UInt32.le_iff_toNat_le, decide_eq_false_iff_not, not_and]
  intro _ below
  exact absurd (Nat.le_trans above below) (by decide)

/-- The check of the characters goes on with what it has seen, or fails. -/
theorem checkHrpChars_eq_ok_iff
    {seenLower seenUpper : Bool}
    {chars : List Char}
    (oneSeen : (seenLower && seenUpper) = false) :
    checkHrpChars seenLower seenUpper chars = .ok ()
      ↔ IsPrintable chars
        ∧ (seenUpper = false ∧ HasNoUpper chars ∨ seenLower = false ∧ HasNoLower chars) := by
  simp only [IsPrintable, HasNoUpper, HasNoLower]
  induction chars generalizing seenLower seenUpper with
  | nil =>
      cases seenLower <;> cases seenUpper <;> simp_all [checkHrpChars]
  | cons char rest inductionHypothesis =>
      rw [checkHrpChars]
      simp only [List.forall_mem_cons]
      by_cases beyond : 128 ≤ char.toNat
      · rw [if_pos beyond]
        constructor
        · nofun
        · rintro ⟨⟨bounds, -⟩, -⟩
          omega
      by_cases unprintable : char.toNat < 33 ∨ 126 < char.toNat
      · rw [if_neg beyond, if_pos unprintable]
        constructor
        · nofun
        · rintro ⟨⟨bounds, -⟩, -⟩
          omega
      have printable : 33 ≤ char.toNat ∧ char.toNat ≤ 126 := by omega
      rw [if_neg beyond, if_neg unprintable]
      by_cases isLower : char.isLower = true
      · have notUpper := not_isUpper_of_isLower isLower
        rw [if_pos isLower]
        cases seenUpper with
        | true => simp [isLower]
        | false =>
            rw [if_neg Bool.false_ne_true, inductionHypothesis rfl]
            simp [printable, isLower, notUpper]
      by_cases isUpper : char.isUpper = true
      · rw [if_neg isLower, if_pos isUpper]
        cases seenLower with
        | true => simp [isUpper]
        | false =>
            rw [if_neg Bool.false_ne_true, inductionHypothesis rfl]
            simp [printable, isLower, isUpper]
      · rw [if_neg isLower, if_neg isUpper, inductionHypothesis oneSeen]
        simp [printable, isLower, isUpper]

/-- The check accepts the human-readable parts. -/
theorem checkHrp_eq_ok_iff (hrp : String) :
    checkHrp hrp = .ok () ↔ IsHrp hrp := by
  have empty : hrp.isEmpty = true ↔ hrp = "" := by simp
  rw [checkHrp]
  by_cases isEmpty : hrp.isEmpty = true
  · rw [if_pos isEmpty]
    constructor
    · nofun
    · intro isHrp
      exact absurd (empty.mp isEmpty) isHrp.nonempty
  rw [if_neg isEmpty]
  by_cases long : 83 < hrp.utf8ByteSize
  · rw [if_pos long]
    constructor
    · nofun
    · intro isHrp
      have ascii : ∀ char ∈ hrp.toList, char.toNat < 128 := by
        intro char isIn
        have bounds := isHrp.printable char isIn
        omega
      have short := isHrp.short
      rw [← Bytes.utf8ByteSize_of_ascii ascii] at short
      omega
  · rw [if_neg long, checkHrpChars_eq_ok_iff rfl]
    simp only [true_and]
    constructor
    · rintro ⟨printable, oneCase⟩
      have ascii : ∀ char ∈ hrp.toList, char.toNat < 128 := by
        intro char isIn
        have bounds := printable char isIn
        omega
      refine ⟨fun isNone => isEmpty (empty.mpr isNone), ?_, printable, oneCase⟩
      rw [← Bytes.utf8ByteSize_of_ascii ascii]
      omega
    · intro isHrp
      exact ⟨isHrp.printable, isHrp.oneCase⟩

/-- What is refused is no human-readable part. -/
theorem exists_fault_iff (hrp : String) :
    (∃ fault, checkHrp hrp = .error fault) ↔ ¬ IsHrp hrp := by
  rw [← checkHrp_eq_ok_iff]
  cases checkHrp hrp <;> simp

instance (hrp : String) : Decidable (IsHrp hrp) :=
  match checked : checkHrp hrp with
  | .ok () => .isTrue ((checkHrp_eq_ok_iff hrp).mp checked)
  | .error fault => .isFalse ((exists_fault_iff hrp).mp ⟨fault, checked⟩)

/-! ## Suffixes -/

/-- Behind a human-readable part a lower-case letter and others like it fit if it has no upper-case
letter and there is room. -/
theorem isHrp_append_iff
    {hrp suffix : String}
    (isHrp : IsHrp hrp)
    (printable : IsPrintable suffix.toList)
    (noUpper : HasNoUpper suffix.toList)
    (someLower : ∃ char ∈ suffix.toList, char.isLower = true) :
    IsHrp (hrp ++ suffix) ↔ hrp.length + suffix.length ≤ 83 ∧ HasNoUpper hrp.toList := by
  obtain ⟨letter, letterIn, letterLower⟩ := someLower
  constructor
  · intro whole
    refine ⟨by simpa using whole.short, ?_⟩
    rcases whole.oneCase with wholeNoUpper | wholeNoLower
    · intro char isIn
      exact wholeNoUpper char (by simp [isIn])
    · have notLower := wholeNoLower letter (by simp [letterIn])
      rw [letterLower] at notLower
      cases notLower
  · rintro ⟨short, hrpNoUpper⟩
    refine ⟨?_, by simpa using short, ?_, .inl ?_⟩
    · intro isNone
      exact isHrp.nonempty (by simpa using congrArg String.toList isNone : hrp = "" ∧ suffix = "").1
    · intro char isIn
      rw [String.toList_append, List.mem_append] at isIn
      exact isIn.elim (isHrp.printable char) (printable char)
    · intro char isIn
      rw [String.toList_append, List.mem_append] at isIn
      exact isIn.elim (hrpNoUpper char) (noUpper char)

end ChainTx.Bech32
