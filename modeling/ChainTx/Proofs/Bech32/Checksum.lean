import ChainTx.Bech32

/-!
Contract: the checksum of a Bech32 text.

Owns:
- that a step of the checksum is linear, so that digits at the end enter it by themselves, whatever
  stands before them;
- that up to six digits in an empty state are the digits of that state;
- that behind any digits exactly one checksum of a variant fits, and that it tells its variant.

Does not own: how many changed characters a checksum is sure to find.

The empty state is used where the reader starts from one: by linearity the start is part of what
stands before.
-/

set_option autoImplicit false

namespace ChainTx.Bech32

/-! ## Linearity -/

private theorem feedback_xor (first second : Digit) :
    feedback (first ^^^ second) = feedback first ^^^ feedback second := by
  have term_xor (one other : Bool) (generator : Residue) :
      (if (one ^^ other) = true then generator else 0#30)
        = (if one = true then generator else 0#30) ^^^ if other = true then generator else 0#30 := by
    cases one <;> cases other <;> simp
  simp only [feedback, BitVec.getLsbD_xor, term_xor]
  ac_rfl

/-- One step is linear. -/
theorem step_xor (first second : Residue) (digit other : Digit) :
    step (first ^^^ second) (digit ^^^ other) = step first digit ^^^ step second other := by
  simp only [step, BitVec.shiftLeft_xor_distrib, BitVec.ushiftRight_xor_distrib,
    BitVec.truncate_eq_setWidth, BitVec.setWidth_xor, feedback_xor]
  ac_rfl

/-- Digits enter a state as they enter the empty one. -/
theorem foldl_step_eq (state : Residue) (digits : List Digit) :
    digits.foldl step state
      = (List.replicate digits.length 0#5).foldl step state ^^^ digits.foldl step 0#30 := by
  have both (first second : Residue) :
      digits.foldl step (first ^^^ second)
        = (List.replicate digits.length 0#5).foldl step first ^^^ digits.foldl step second := by
    induction digits generalizing first second with
    | nil => rfl
    | cons digit rest inductionHypothesis =>
        have split := step_xor first second 0#5 digit
        rw [BitVec.zero_xor] at split
        rw [List.length_cons, List.replicate_succ, List.foldl_cons, List.foldl_cons,
          List.foldl_cons, split]
        exact inductionHypothesis _ _
  have split := both state 0#30
  rwa [BitVec.xor_zero] at split

/-! ## Digits in an empty state -/

/-- While the top digit of a state is empty, the next digit is written behind the others. -/
theorem toNat_step_of_lt
    {state : Residue}
    (small : state.toNat < 2 ^ 25)
    (digit : Digit) :
    (step state digit).toNat = 32 * state.toNat + digit.toNat := by
  have digitLt := digit.isLt
  have nothing : (state >>> 25).truncate 5 = 0#5 := by
    apply BitVec.eq_of_toNat_eq
    simp only [BitVec.truncate_eq_setWidth, BitVec.toNat_setWidth, BitVec.toNat_ushiftRight,
      Nat.shiftRight_eq_div_pow, BitVec.toNat_ofNat]
    omega
  have noFeedback : feedback 0#5 = 0#30 := by decide
  have shifted : (state <<< 5).toNat = 32 * state.toNat := by
    rw [BitVec.toNat_shiftLeft, Nat.shiftLeft_eq]
    omega
  have widened : (digit.zeroExtend 30).toNat = digit.toNat := by
    rw [BitVec.zeroExtend_eq_setWidth, BitVec.toNat_setWidth]
    omega
  rw [step, nothing, noFeedback, BitVec.xor_zero, BitVec.toNat_xor, shifted, widened]
  -- The two numbers share no bit: one has none below the fifth, the other none above.
  have high : (32 * state.toNat ^^^ digit.toNat) / 2 ^ 5 = state.toNat := by
    rw [Nat.xor_div_two_pow, Nat.div_eq_of_lt digitLt, Nat.xor_zero]
    omega
  have low : (32 * state.toNat ^^^ digit.toNat) % 2 ^ 5 = digit.toNat := by
    rw [Nat.xor_mod_two_pow, Nat.mod_eq_of_lt digitLt, Nat.mul_mod_right, Nat.zero_xor]
  omega

private theorem toNat_foldl_step
    {state : Residue}
    {width : Nat}
    {digits : List Digit}
    (small : state.toNat < 32 ^ width)
    (room : width + digits.length ≤ 6) :
    (digits.foldl step state).toNat
      = digits.foldl (fun prior digit => 32 * prior + digit.toNat) state.toNat := by
  induction digits generalizing state width with
  | nil => rfl
  | cons digit rest inductionHypothesis =>
      have digitLt := digit.isLt
      rw [List.length_cons] at room
      have fits : state.toNat < 2 ^ 25 :=
        Nat.lt_of_lt_of_le small (Nat.pow_le_pow_right (by decide) (by omega : width ≤ 5))
      have next := toNat_step_of_lt fits digit
      have nextSmall : (step state digit).toNat < 32 ^ (width + 1) := by
        rw [next, Nat.pow_succ]
        omega
      rw [List.foldl_cons, List.foldl_cons, ← next]
      exact inductionHypothesis nextSmall (by omega)

/-- Up to six digits in an empty state are written one behind the other. -/
theorem toNat_foldl_step_zero
    {digits : List Digit}
    (short : digits.length ≤ 6) :
    (digits.foldl step 0#30).toNat
      = digits.foldl (fun prior digit => 32 * prior + digit.toNat) 0 :=
  toNat_foldl_step (by decide : (0#30).toNat < 32 ^ 0) (by omega)

private theorem length_residueDigits (state : Residue) : (residueDigits state).length = 6 :=
  rfl

/-- Six digits in an empty state are that state's digits. -/
theorem residueDigits_foldl_step
    {digits : List Digit}
    (six : digits.length = 6) :
    residueDigits (digits.foldl step 0#30) = digits := by
  have number := toNat_foldl_step_zero (Nat.le_of_eq six)
  match digits, six with
  | [a, b, c, d, e, f], _ =>
      generalize List.foldl step 0#30 [a, b, c, d, e, f] = state at number ⊢
      have aLt := a.isLt
      have bLt := b.isLt
      have cLt := c.isLt
      have dLt := d.isLt
      have eLt := e.isLt
      have fLt := f.isLt
      simp only [List.foldl_cons, List.foldl_nil] at number
      simp only [residueDigits, List.cons.injEq, and_true, ← BitVec.toNat_inj,
        BitVec.truncate_eq_setWidth, BitVec.toNat_setWidth, BitVec.toNat_ushiftRight,
        Nat.shiftRight_eq_div_pow]
      omega

private theorem foldl_step_residueDigits (state : Residue) :
    (residueDigits state).foldl step 0#30 = state := by
  have stateLt := state.isLt
  have number := toNat_foldl_step_zero (Nat.le_of_eq (length_residueDigits state))
  apply BitVec.eq_of_toNat_eq
  rw [number]
  simp only [residueDigits, List.foldl_cons, List.foldl_nil, BitVec.truncate_eq_setWidth,
    BitVec.toNat_setWidth, BitVec.toNat_ushiftRight, Nat.shiftRight_eq_div_pow]
  omega

/-! ## Six digits that fit -/

/-- Behind any digits there is one checksum of a variant and no other. -/
theorem hasChecksum_append_iff
    {variant : Variant}
    {hrp : List Char}
    {digits check : List Digit}
    (six : check.length = 6) :
    hasChecksum variant hrp (digits ++ check) = true ↔ check = checksum variant hrp digits := by
  have entered :
      residue (expandHrp hrp ++ (digits ++ check))
        = residue (expandHrp hrp ++ digits ++ List.replicate 6 0#5) ^^^ check.foldl step 0#30 := by
    rw [residue, residue, ← List.append_assoc, List.foldl_append, foldl_step_eq, six,
      ← List.foldl_append]
  rw [hasChecksum, beq_iff_eq, entered, checksum]
  generalize residue (expandHrp hrp ++ digits ++ List.replicate 6 0#5) = before
  have solved : before ^^^ check.foldl step 0#30 = variant.target
      ↔ check.foldl step 0#30 = before ^^^ variant.target := by
    rw [← BitVec.xor_right_inj before, ← BitVec.xor_assoc, BitVec.xor_self, BitVec.zero_xor]
  rw [solved]
  constructor
  · intro state
    rw [← state, residueDigits_foldl_step six]
  · rintro rfl
    exact foldl_step_residueDigits _

theorem length_checksum (variant : Variant) (hrp : List Char) (digits : List Digit) :
    (checksum variant hrp digits).length = 6 :=
  rfl

/-- A checksum tells its variant. -/
theorem variant_eq_of_checksum_eq
    {first second : Variant}
    {hrp : List Char}
    {digits : List Digit}
    (same : checksum first hrp digits = checksum second hrp digits) :
    first = second := by
  have states := congrArg (List.foldl step 0#30) same
  rw [checksum, checksum, foldl_step_residueDigits, foldl_step_residueDigits,
    BitVec.xor_right_inj] at states
  have distinct : Variant.bech32.target ≠ Variant.bech32m.target := by decide
  cases first with
  | bech32 =>
      cases second with
      | bech32 => rfl
      | bech32m => exact absurd states distinct
  | bech32m =>
      cases second with
      | bech32 => exact absurd states.symm distinct
      | bech32m => rfl

end ChainTx.Bech32
