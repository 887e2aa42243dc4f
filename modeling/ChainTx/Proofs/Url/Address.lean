import ChainTx.Proofs.Bytes.Hexadecimal
import ChainTx.Proofs.Text.Decimal
import ChainTx.Proofs.Url.Domain
import ChainTx.Url.Address
import Mathlib.Data.List.Basic

/-!
Contract: numeric hosts are read back from their texts.

Owns:
- version 4 addresses: four dotted numbers, which are a name in its ASCII form and end in a number;
- version 6 addresses: eight pieces of sixteen bits, of which the first longest run of zeros may be
  left out;
- that whatever is read is an address of this kind.

Does not own: brackets.
-/

set_option autoImplicit false

namespace ChainTx.Url

namespace Ipv4

open Decimal (IsAsciiDigit)

/-! ## Dotted numbers -/

private theorem digitValue?_of_isAsciiDigit
    {char : Char}
    (isDigit : IsAsciiDigit char) :
    Hex.digitValue? char = some (Decimal.digitValue char) :=
  if_pos isDigit

/-- In base ten a run of digits has its decimal value. -/
theorem digitsValue_ten
    {run : List Char}
    (areDigits : ∀ char ∈ run, IsAsciiDigit char) :
    digitsValue 10 run = Decimal.value run := by
  refine List.foldl_ext _ _ _ fun prior char isIn => ?_
  rw [digitValue?_of_isAsciiDigit (areDigits char isIn)]
  rfl

private theorem read_digits
    {number : Nat}
    (small : number < 2 ^ 32) :
    Part.read (Decimal.digits number) = .number number := by
  obtain ⟨⟨nonempty, areDigits⟩, eq_zero_of_head, value⟩ := Decimal.isCanonical_digits number
  generalize Decimal.digits number = run at *
  have decimal : readDigits 10 run = .number number := by
    rw [readDigits, if_neg (by simpa using nonempty)]
    refine (if_pos (List.all_eq_true.mpr fun char isIn => ?_)).trans ?_
    · rw [digitValue?_of_isAsciiDigit (areDigits char isIn)]
      exact decide_eq_true (Decimal.digitValue_lt (areDigits char isIn))
    · rw [digitsValue_ten areDigits, value]
      exact if_pos small
  unfold Part.read
  split
  · exact absurd rfl nonempty
  · cases eq_zero_of_head rfl
  · cases eq_zero_of_head rfl
  · exact congrArg Part.number value
  · cases eq_zero_of_head rfl
    contradiction
  · exact decimal

/-- The text of an address, as its four numbers. -/
theorem text_eq_intercalate (address : Nat) :
    text address = ['.'].intercalate (([address / 2 ^ 24 % 256, address / 2 ^ 16 % 256,
      address / 2 ^ 8 % 256, address % 256]).map Decimal.digits) := by
  simp [text, List.intercalate]

private theorem splitOnChar_text (address : Nat) :
    splitOnChar '.' (text address)
      = ([address / 2 ^ 24 % 256, address / 2 ^ 16 % 256, address / 2 ^ 8 % 256,
          address % 256]).map Decimal.digits := by
  rw [text_eq_intercalate, splitOnChar_eq_splitOn]
  refine List.splitOn_intercalate '.' (fun run isRun isIn => ?_) (by simp)
  obtain ⟨number, -, rfl⟩ := List.mem_map.mp isRun
  exact absurd (Decimal.isAsciiDigit_of_mem_digits isIn) (by decide)

private theorem parts_text (address : Nat) :
    parts (text address)
      = ([address / 2 ^ 24 % 256, address / 2 ^ 16 % 256, address / 2 ^ 8 % 256,
          address % 256]).map Decimal.digits := by
  have nonempty := (Decimal.isCanonical_digits (address % 256)).isRun.1
  rw [parts, splitOnChar_text]
  exact if_neg (by simpa using nonempty)

theorem endsInNumber_text (address : Nat) :
    endsInNumber (text address) = true := by
  obtain ⟨nonempty, areDigits⟩ := (Decimal.isCanonical_digits (address % 256)).isRun
  have allDigits : (Decimal.digits (address % 256)).all Char.isDigit = true :=
    List.all_eq_true.mpr fun char isIn => Decimal.isDigit_iff.mpr (areDigits char isIn)
  rw [endsInNumber, parts_text]
  simp [nonempty, allDigits]

private theorem numbers?_digits
    {values : List Nat}
    (small : ∀ value ∈ values, value < 2 ^ 32) :
    numbers? (values.map Decimal.digits) = some values := by
  induction values with
  | nil => rfl
  | cons value rest inductionHypothesis =>
      have ⟨here, behind⟩ := List.forall_mem_cons.mp small
      have others := inductionHypothesis behind
      rw [numbers?] at others
      rw [numbers?, List.map_cons, List.mapM_cons, read_digits here, others]
      rfl

/-- An address of 32 bits is read back. -/
theorem read?_text
    {address : Nat}
    (small : address < 2 ^ 32) :
    read? (text address) = some address := by
  have numbers : numbers? (parts (text address))
      = some [address / 2 ^ 24 % 256, address / 2 ^ 16 % 256, address / 2 ^ 8 % 256,
          address % 256] := by
    rw [parts_text]
    refine numbers?_digits fun value isIn => ?_
    simp only [List.mem_cons, List.not_mem_nil, or_false] at isIn
    omega
  have bytes : [address / 2 ^ 24 % 256, address / 2 ^ 16 % 256, address / 2 ^ 8 % 256].any (255 < ·)
      = false := by
    simp only [List.any_cons, List.any_nil, Bool.or_false, Bool.or_eq_false_iff,
      decide_eq_false_iff_not]
    omega
  have lastSmall : ¬256 ^ (4 - 3) ≤ address % 256 := by omega
  have whole : (256 * (256 * (256 * 0 + address / 2 ^ 24 % 256) + address / 2 ^ 16 % 256)
      + address / 2 ^ 8 % 256) * 256 ^ (4 - 3) + address % 256 = address := by
    omega
  rw [read?, numbers]
  change (if 3 < 3 then none else if ([_, _, _].any _) = true then none
    else if 256 ^ (4 - 3) ≤ _ then none else some _) = _
  rw [if_neg (Nat.lt_irrefl 3), bytes, if_neg Bool.false_ne_true, if_neg lastSmall]
  exact congrArg some whole

/-- What digits of a base write is below the power of the base. -/
theorem foldl_lt
    {base : Nat}
    {values : List Nat}
    (small : ∀ value ∈ values, value < base)
    (prior : Nat) :
    values.foldl (fun prior value => base * prior + value) prior
      < (prior + 1) * base ^ values.length := by
  induction values generalizing prior with
  | nil => simp
  | cons value rest inductionHypothesis =>
      have ⟨here, behind⟩ := List.forall_mem_cons.mp small
      have step : (base * prior + value + 1) * base ^ rest.length
          ≤ (prior + 1) * base * base ^ rest.length := by
        refine Nat.mul_le_mul_right _ ?_
        rw [Nat.add_mul, Nat.mul_comm prior]
        omega
      rw [List.foldl_cons, List.length_cons, Nat.pow_succ']
      calc
        _ < _ := inductionHypothesis behind _
        _ ≤ _ := step
        _ = _ := Nat.mul_assoc _ _ _

theorem lt_of_read?
    {name : List Char}
    {address : Nat}
    (read : read? name = some address) :
    address < 2 ^ 32 := by
  obtain ⟨values, -, read⟩ := Option.bind_eq_some_iff.mp read
  split at read
  · cases read
  · rename_i last leadingReversed _
    simp only [Option.ite_none_left_eq_some, Option.some.injEq] at read
    obtain ⟨few, bytes, lastSmall, rfl⟩ := read
    generalize leadingReversed.reverse = leading at *
    have small : ∀ value ∈ leading, value < 256 := by
      simpa [Nat.lt_succ_iff] using bytes
    have high := foldl_lt small 0
    rw [Nat.zero_add, Nat.one_mul] at high
    have width : 256 ^ leading.length * 256 ^ (4 - leading.length) = 2 ^ 32 := by
      rw [← Nat.pow_add, Nat.add_sub_cancel' (by omega)]
    have product := Nat.mul_le_mul_right (256 ^ (4 - leading.length)) (Nat.succ_le_of_lt high)
    rw [width, Nat.succ_mul] at product
    omega

theorem text_ne_nil (address : Nat) :
    text address ≠ [] := by
  rw [text, List.append_assoc]
  exact List.append_ne_nil_of_right_ne_nil _ (List.cons_ne_nil _ _)

/-- The text of an address is a name in its ASCII form. -/
theorem isAsciiName_text (address : Nat) :
    Domain.IsAsciiName (text address) := by
  rw [text_eq_intercalate]
  refine Domain.isAsciiName_intercalate (by simp) fun label isLabel => ?_
  obtain ⟨number, -, rfl⟩ := List.mem_map.mp isLabel
  refine Domain.isAsciiLabel_of_digits fun char isIn => ?_
  exact .inl (Decimal.isAsciiDigit_of_mem_digits isIn)

end Ipv4

namespace Ipv6

open Quoted (hexDigit hexDigits)

/-! ## Pieces -/

/-- Lower-case hexadecimal digits. -/
def IsLowerHexDigit (char : Char) : Prop :=
  48 ≤ char.toNat ∧ char.toNat ≤ 57 ∨ 97 ≤ char.toNat ∧ char.toNat ≤ 102

instance (char : Char) : Decidable (IsLowerHexDigit char) :=
  inferInstanceAs (Decidable (_ ∨ _))

private theorem hexDigit_spec
    {digit : Nat}
    (small : digit < 16) :
    IsLowerHexDigit (hexDigit digit) ∧ Hex.digitValue? (hexDigit digit) = some digit := by
  have byIndex : ∀ index : Fin 16, IsLowerHexDigit (hexDigit index.val)
      ∧ Hex.digitValue? (hexDigit index.val) = some index.val := by
    decide
  exact byIndex ⟨digit, small⟩

private theorem hexDigits_ne_nil (number : Nat) :
    hexDigits number ≠ [] := by
  rw [hexDigits]
  split <;> simp

private theorem isLowerHexDigit_of_mem_hexDigits
    {number : Nat}
    {char : Char}
    (isIn : char ∈ hexDigits number) :
    IsLowerHexDigit char := by
  fun_induction hexDigits number with
  | case1 number small =>
      rw [List.mem_singleton.mp isIn]
      exact (hexDigit_spec small).1
  | case2 number large inductionHypothesis =>
      rcases List.mem_append.mp isIn with inFront | isLast
      · exact inductionHypothesis inFront
      · rw [List.mem_singleton.mp isLast]
        exact (hexDigit_spec (by omega)).1

private theorem digitsValue_hexDigits (number : Nat) :
    Ipv4.digitsValue 16 (hexDigits number) = number := by
  fun_induction hexDigits number with
  | case1 number small =>
      rw [Ipv4.digitsValue, List.foldl_cons, List.foldl_nil, (hexDigit_spec small).2,
        Option.getD_some]
      omega
  | case2 number large inductionHypothesis =>
      rw [Ipv4.digitsValue] at inductionHypothesis
      rw [Ipv4.digitsValue, List.foldl_append, inductionHypothesis, List.foldl_cons, List.foldl_nil,
        (hexDigit_spec (by omega)).2, Option.getD_some]
      omega

private theorem length_hexDigits_le
    {width number : Nat}
    (small : number < 16 ^ (width + 1)) :
    (hexDigits number).length ≤ width + 1 := by
  induction width generalizing number with
  | zero =>
      rw [hexDigits, if_pos (by omega)]
      exact Nat.le_refl 1
  | succ width inductionHypothesis =>
      rw [hexDigits]
      split
      · exact Nat.le_add_left 1 _
      · have quotient : number / 16 < 16 ^ (width + 1) := by
          rw [Nat.pow_succ] at small
          omega
        rw [List.length_append]
        exact Nat.succ_le_succ (inductionHypothesis quotient)

/-- A piece of sixteen bits is read back. -/
theorem piece?_hexDigits
    {piece : Nat}
    (small : piece < 65536) :
    piece? (hexDigits piece) = some piece := by
  have nonempty := List.length_pos_iff.mpr (hexDigits_ne_nil piece)
  have short : (hexDigits piece).length ≤ 3 + 1 := length_hexDigits_le small
  have areDigits : (hexDigits piece).all Hex.isDigit = true := by
    refine List.all_eq_true.mpr fun char isIn => Hex.isDigit_iff.mpr ?_
    exact (isLowerHexDigit_of_mem_hexDigits isIn).imp_right .inr
  rw [piece?, if_pos ⟨nonempty, short, areDigits⟩, digitsValue_hexDigits]

/-! ## Sides -/

/-- Pieces of sixteen bits. -/
def ArePieces (pieces : List Nat) : Prop :=
  ∀ piece ∈ pieces, piece < 65536

private theorem isLowerHexDigit_or_colon_of_mem_joined
    {pieces : List Nat}
    {char : Char}
    (isIn : char ∈ joined pieces) :
    char = ':' ∨ IsLowerHexDigit char := by
  obtain inMark | ⟨group, isGroup, inGroup⟩ := mem_or_mem_of_mem_intercalate isIn
  · exact .inl (List.mem_singleton.mp inMark)
  · obtain ⟨piece, -, rfl⟩ := List.mem_map.mp isGroup
    exact .inr (isLowerHexDigit_of_mem_hexDigits inGroup)

private theorem dot_not_mem_hexDigits (piece : Nat) :
    (hexDigits piece).contains '.' = false := by
  rw [List.contains_eq_mem, decide_eq_false_iff_not]
  exact fun isIn => absurd (isLowerHexDigit_of_mem_hexDigits isIn) (by decide)

private theorem groups?_hexDigits
    {pieces : List Nat}
    (arePieces : ArePieces pieces) :
    groups? (pieces.map hexDigits) = some pieces := by
  induction pieces with
  | nil => rfl
  | cons piece rest inductionHypothesis =>
      have ⟨here, behind⟩ := List.forall_mem_cons.mp arePieces
      have read := piece?_hexDigits here
      have others := inductionHypothesis behind
      cases rest with
      | nil =>
          rw [List.map_cons, List.map_nil, groups?, dot_not_mem_hexDigits, read]
          rfl
      | cons next more =>
          rw [List.map_cons] at others ⊢
          rw [List.map_cons, groups?, read, others]
          · rfl
          · exact List.cons_ne_nil _ _

private theorem joined_cons_cons (first second : Nat) (rest : List Nat) :
    joined (first :: second :: rest) = hexDigits first ++ ':' :: joined (second :: rest) := by
  simp [joined]

private theorem exists_joined_eq_cons
    {pieces : List Nat}
    (nonempty : pieces ≠ []) :
    ∃ char behind, joined pieces = char :: behind ∧ IsLowerHexDigit char := by
  obtain ⟨first, rest, rfl⟩ := List.exists_cons_of_ne_nil nonempty
  obtain ⟨char, digits, digitsAre⟩ := List.exists_cons_of_ne_nil (hexDigits_ne_nil first)
  have isDigit : IsLowerHexDigit char :=
    isLowerHexDigit_of_mem_hexDigits (digitsAre ▸ List.mem_cons_self)
  cases rest with
  | nil => exact ⟨char, digits, by simpa [joined] using digitsAre, isDigit⟩
  | cons second others =>
      exact ⟨char, digits ++ ':' :: joined (second :: others),
        by rw [joined_cons_cons, digitsAre, List.cons_append], isDigit⟩

/-- Joined pieces are read back. -/
theorem side?_joined
    {pieces : List Nat}
    (arePieces : ArePieces pieces) :
    side? (joined pieces) = some pieces := by
  by_cases none : pieces = []
  · subst none
    rfl
  · have nonempty : joined pieces ≠ [] := by
      obtain ⟨char, behind, joinedIs, -⟩ := exists_joined_eq_cons none
      rw [joinedIs]
      exact List.cons_ne_nil _ _
    have cut : splitOnChar ':' (joined pieces) = pieces.map hexDigits := by
      rw [splitOnChar_eq_splitOn]
      refine List.splitOn_intercalate ':' (fun group isGroup isIn => ?_) (by simpa using none)
      obtain ⟨piece, -, rfl⟩ := List.mem_map.mp isGroup
      exact absurd (isLowerHexDigit_of_mem_hexDigits isIn) (by decide)
    rw [side?, if_neg (by simpa using nonempty), cut, groups?_hexDigits arePieces]

/-! ## The double colon -/

private theorem splitCompressed_cons
    {char : Char}
    {rest : List Char}
    (single : char = ':' → rest.head? ≠ some ':') :
    splitCompressed (char :: rest)
      = (splitCompressed rest).map fun (before, after) => (char :: before, after) := by
  rw [splitCompressed]
  rintro _ rfl rfl
  exact single rfl rfl

private theorem splitCompressed_append
    {group : List Char}
    (noColon : ':' ∉ group)
    (rest : List Char) :
    splitCompressed (group ++ rest)
      = (splitCompressed rest).map fun (before, after) => (group ++ before, after) := by
  induction group with
  | nil => simp
  | cons char others inductionHypothesis =>
      have here : char ≠ ':' := Ne.symm (List.ne_of_not_mem_cons noColon)
      rw [List.cons_append, splitCompressed_cons fun isColon => absurd isColon here,
        inductionHypothesis (List.not_mem_of_not_mem_cons noColon), Option.map_map]
      rfl

/-- Joined pieces have no double colon, and do not end in one that has begun. -/
theorem splitCompressed_joined_append
    {pieces : List Nat}
    (nonempty : pieces ≠ [])
    (rest : List Char) :
    splitCompressed (joined pieces ++ rest)
      = (splitCompressed rest).map fun (before, after) => (joined pieces ++ before, after) := by
  have noColon (piece : Nat) : ':' ∉ hexDigits piece :=
    fun isIn => absurd (isLowerHexDigit_of_mem_hexDigits isIn) (by decide)
  induction pieces with
  | nil => exact absurd rfl nonempty
  | cons first others inductionHypothesis =>
      cases others with
      | nil =>
          have alone : joined [first] = hexDigits first := by
            simp [joined]
          rw [alone, splitCompressed_append (noColon first)]
      | cons second more =>
          have behind : (joined (second :: more) ++ rest).head? ≠ some ':' := by
            obtain ⟨char, tail, joinedIs, isDigit⟩ :=
              exists_joined_eq_cons (List.cons_ne_nil second more)
            rw [joinedIs, List.cons_append, List.head?_cons, ne_eq, Option.some.injEq]
            rintro rfl
            exact absurd isDigit (by decide)
          rw [joined_cons_cons, List.append_assoc, splitCompressed_append (noColon first),
            List.cons_append, splitCompressed_cons fun _ => behind,
            inductionHypothesis (List.cons_ne_nil _ _), Option.map_map, Option.map_map]
          refine congrArg (Option.map · _) (funext fun cut => ?_)
          simp

/-- The longest run of zeros lies where it is said to. -/
theorem longestRun_spec
    {start found length : Nat}
    {pieces : List Nat}
    (isLongest : longestRun start pieces = (found, length))
    (positive : 0 < length) :
    ∃ before after,
      found = start + before.length ∧ pieces = before ++ List.replicate length 0 ++ after := by
  induction pieces generalizing start with
  | nil =>
      cases isLongest
      exact absurd positive (Nat.lt_irrefl 0)
  | cons piece rest inductionHypothesis =>
      rw [longestRun] at isLongest
      split at isLongest
      · cases isLongest
        refine ⟨[], (piece :: rest).dropWhile (· == 0), rfl, ?_⟩
        have zeros : (piece :: rest).takeWhile (· == 0)
            = List.replicate (zeroRun (piece :: rest)) 0 := by
          refine List.eq_replicate_iff.mpr ⟨rfl, fun value isIn => ?_⟩
          exact beq_iff_eq.mp (List.all_eq_true.mp List.all_takeWhile value isIn)
        rw [List.nil_append, ← zeros, List.takeWhile_append_dropWhile]
      · obtain ⟨before, after, place, parts⟩ := inductionHypothesis isLongest
        refine ⟨piece :: before, after, ?_, ?_⟩
        · rw [place, List.length_cons]
          omega
        · rw [parts]
          rfl

/-- Eight pieces of sixteen bits. -/
structure IsAddress (pieces : List Nat) : Prop where
  length_eq : pieces.length = 8
  arePieces : ArePieces pieces

/-- An address is read back. -/
theorem read?_text
    {pieces : List Nat}
    (isAddress : IsAddress pieces) :
    read? (text pieces) = some pieces := by
  rw [text]
  rcases run : longestRun 0 pieces with ⟨start, length⟩
  simp only
  split
  · rename_i long
    obtain ⟨before, after, rfl, rfl⟩ := longestRun_spec run (by omega)
    obtain ⟨count, arePieces⟩ := isAddress
    have ⟨front, afterPieces⟩ := List.forall_mem_append.mp arePieces
    have beforePieces : ArePieces before := (List.forall_mem_append.mp front).1
    have place : (before ++ List.replicate length 0).length = 0 + before.length + length := by
      simp
    have taken : (before ++ List.replicate length 0 ++ after).take (0 + before.length)
        = before := by
      simp
    have dropped : (before ++ List.replicate length 0 ++ after).drop (0 + before.length + length)
        = after := by
      rw [← place, List.drop_left]
    -- No earlier colon has a second one behind it, so the text is cut where the zeros were.
    have cut : splitCompressed (joined before ++ ':' :: ':' :: joined after)
        = some (joined before, joined after) := by
      by_cases none : before = []
      · subst none
        rfl
      · rw [splitCompressed_joined_append none, splitCompressed, Option.map_some]
        simp
    have noDot : (joined before).contains '.' = false := by
      rw [List.contains_eq_mem, decide_eq_false_iff_not]
      intro isIn
      obtain impossible | impossible := isLowerHexDigit_or_colon_of_mem_joined isIn
      · exact absurd impossible (by decide)
      · exact absurd impossible (by decide)
    have total : before.length + (length + after.length) = 8 := by
      simpa using count
    have zeros : 8 - before.length - after.length = length := by omega
    rw [taken, dropped, read?, cut]
    simp only
    rw [side?_joined beforePieces, side?_joined afterPieces]
    refine (if_neg ?_).trans ?_
    · rw [noDot]
      exact not_or.mpr ⟨Bool.false_ne_true, by omega⟩
    · rw [zeros]
  · have nonempty : pieces ≠ [] := by
      rintro rfl
      cases isAddress.length_eq
    have whole := splitCompressed_joined_append nonempty []
    rw [List.append_nil] at whole
    rw [read?, whole, side?_joined isAddress.arePieces]
    exact if_pos isAddress.length_eq

theorem isLowerHexDigit_or_colon_of_mem_text
    {pieces : List Nat}
    {char : Char}
    (isIn : char ∈ text pieces) :
    char = ':' ∨ IsLowerHexDigit char := by
  rcases run : longestRun 0 pieces with ⟨start, length⟩
  simp only [text, run] at isIn
  split at isIn
  · simp only [List.mem_append, List.mem_cons] at isIn
    obtain inBefore | isColon | isColon | inAfter := isIn
    · exact isLowerHexDigit_or_colon_of_mem_joined inBefore
    · exact .inl isColon
    · exact .inl isColon
    · exact isLowerHexDigit_or_colon_of_mem_joined inAfter
  · exact isLowerHexDigit_or_colon_of_mem_joined isIn

/-! ## What is read -/

private theorem lt_of_piece?
    {digits : List Char}
    {piece : Nat}
    (read : piece? digits = some piece) :
    piece < 65536 := by
  rw [piece?, Option.ite_none_right_eq_some, Option.some.injEq] at read
  obtain ⟨⟨-, short, areDigits⟩, rfl⟩ := read
  have small : ∀ value ∈ digits.map fun digit => (Hex.digitValue? digit).getD 0, value < 16 := by
    intro value isIn
    obtain ⟨digit, isDigit, rfl⟩ := List.mem_map.mp isIn
    obtain ⟨value, valueIs⟩ :=
      Option.isSome_iff_exists.mp (List.all_eq_true.mp areDigits digit isDigit)
    rw [valueIs]
    exact (Hex.digitValue?_eq_some_iff.mp valueIs).2.1
  have bound := Ipv4.foldl_lt small 0
  rw [List.foldl_map, List.length_map, Nat.zero_add, Nat.one_mul] at bound
  exact Nat.lt_of_lt_of_le bound (Nat.pow_le_pow_right (by decide) short)

private theorem arePieces_of_strictPieces?
    {name : List Char}
    {pieces : List Nat}
    (read : Ipv4.strictPieces? name = some pieces) :
    ArePieces pieces := by
  obtain ⟨numbers, numbersRead, read⟩ := Option.bind_eq_some_iff.mp read
  have small : ∀ number ∈ numbers, number ≤ 255 := by
    intro number isIn
    obtain ⟨digits, -, numberRead⟩ := exists_of_mem_of_mapM numbersRead isIn
    unfold Ipv4.strictNumber? at numberRead
    split at numberRead
    · rw [Option.ite_none_left_eq_some, Option.some.injEq] at numberRead
      omega
    · cases numberRead
  split at read
  · cases read
    simp only [List.forall_mem_cons] at small
    simp only [ArePieces, List.forall_mem_cons]
    exact ⟨by omega, by omega, List.forall_mem_nil _⟩
  · cases read

private theorem arePieces_of_groups?
    {groups : List (List Char)}
    {pieces : List Nat}
    (read : groups? groups = some pieces) :
    ArePieces pieces := by
  fun_induction groups? groups generalizing pieces with
  | case1 =>
      cases read
      exact List.forall_mem_nil _
  | case2 last isDotted => exact arePieces_of_strictPieces? read
  | case3 last notDotted =>
      obtain ⟨piece, pieceRead, rfl⟩ := Option.map_eq_some_iff.mp read
      exact List.forall_mem_singleton.mpr (lt_of_piece? pieceRead)
  | case4 group rest several inductionHypothesis =>
      obtain ⟨piece, pieceRead, read⟩ := Option.bind_eq_some_iff.mp read
      obtain ⟨others, othersRead, read⟩ := Option.bind_eq_some_iff.mp read
      cases read
      exact List.forall_mem_cons.mpr ⟨lt_of_piece? pieceRead, inductionHypothesis othersRead⟩

private theorem arePieces_of_side?
    {side : List Char}
    {pieces : List Nat}
    (read : side? side = some pieces) :
    ArePieces pieces := by
  unfold side? at read
  split at read
  · cases read
    exact List.forall_mem_nil _
  · exact arePieces_of_groups? read

theorem isAddress_of_read?
    {name : List Char}
    {pieces : List Nat}
    (read : read? name = some pieces) :
    IsAddress pieces := by
  unfold read? at read
  split at read
  · obtain ⟨found, sideRead, read⟩ := Option.bind_eq_some_iff.mp read
    rw [Option.ite_none_right_eq_some, Option.some.injEq] at read
    obtain ⟨count, rfl⟩ := read
    exact ⟨count, arePieces_of_side? sideRead⟩
  · obtain ⟨leading, leadingRead, read⟩ := Option.bind_eq_some_iff.mp read
    obtain ⟨trailing, trailingRead, read⟩ := Option.bind_eq_some_iff.mp read
    rw [Option.ite_none_left_eq_some, Option.some.injEq] at read
    obtain ⟨few, rfl⟩ := read
    refine ⟨by simp only [List.length_append, List.length_replicate]; omega, ?_⟩
    refine List.forall_mem_append.mpr ⟨List.forall_mem_append.mpr
      ⟨arePieces_of_side? leadingRead, fun piece isIn => ?_⟩, arePieces_of_side? trailingRead⟩
    rw [List.eq_of_mem_replicate isIn]
    decide

end Ipv6

end ChainTx.Url
