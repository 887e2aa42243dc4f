import Mathlib
import ChainTx.Proofs.Bech32.Checksum
import ChainTx.Proofs.Bech32.HumanReadable
import ChainTx.Proofs.Bech32.Regrouping
import ChainTx.Proofs.Text.Cutting

/-!
Contract: which texts the Bech32 reader takes, and what it reads in them.

Owns:
- the spelling of digits: the human-readable part, the separator, the digits and their checksum, all
  in one letter case;
- that the reader takes the spellings of either variant and no other text, whatever payload their
  digits hold;
- that a text spells one list of digits in one variant.

Does not own: which digits a payload ought to be written with.
-/

set_option autoImplicit false

namespace ChainTx.Bech32

/-! ## Letter case -/

theorem map_toLower_of_hasNoUpper
    {chars : List Char}
    (noUpper : HasNoUpper chars) :
    chars.map Char.toLower = chars :=
  (List.map_congr_left fun char isIn =>
    Char.toLower_eq_of_not_isUpper (ne_true_of_eq_false (noUpper char isIn))).trans (List.map_id chars)

private theorem map_toUpper_of_hasNoLower
    {chars : List Char}
    (noLower : HasNoLower chars) :
    chars.map Char.toUpper = chars :=
  (List.map_congr_left fun char isIn =>
    Char.toUpper_eq_of_not_isLower (ne_true_of_eq_false (noLower char isIn))).trans (List.map_id chars)

private theorem hasNoLower_map_toUpper (chars : List Char) :
    HasNoLower (chars.map Char.toUpper) := by
  simp [HasNoLower]

private theorem map_toUpper_map_toLower (chars : List Char) :
    (chars.map Char.toLower).map Char.toUpper = chars.map Char.toUpper := by
  simp

theorem map_toLower_map_toUpper (chars : List Char) :
    (chars.map Char.toUpper).map Char.toLower = chars.map Char.toLower := by
  simp

theorem map_toLower_toLower (text : String) :
    text.toLower.toList.map Char.toLower = text.toList.map Char.toLower := by
  simp [String.toLower]

theorem toLower_eq_of_hasNoUpper
    {text : String}
    (noUpper : HasNoUpper text.toList) :
    text.toLower = text := by
  rw [← String.toList_inj, String.toLower, String.toList_map, map_toLower_of_hasNoUpper noUpper]

theorem toUpper_eq_of_sameLower
    {text otherText : String}
    (same : text.toList.map Char.toLower = otherText.toList.map Char.toLower) :
    text.toUpper = otherText.toUpper := by
  rw [← String.toList_inj, String.toUpper, String.toUpper, String.toList_map, String.toList_map,
    ← map_toUpper_map_toLower, same, map_toUpper_map_toLower]

private theorem hasNoUpper_append {first second : List Char} :
    HasNoUpper (first ++ second) ↔ HasNoUpper first ∧ HasNoUpper second :=
  List.forall_mem_append

private theorem hasNoLower_append {first second : List Char} :
    HasNoLower (first ++ second) ↔ HasNoLower first ∧ HasNoLower second :=
  List.forall_mem_append

/-- The reader refuses letters of both cases. -/
theorem oneCase_iff {chars : List Char} :
    (chars.any Char.isUpper && chars.any Char.isLower) = false
      ↔ HasNoUpper chars ∨ HasNoLower chars := by
  simp only [Bool.and_eq_false_iff, List.any_eq_false, Bool.not_eq_true, HasNoUpper, HasNoLower]

/-! ## Digit characters -/

private theorem digit?_eq_some_iff
    {char : Char}
    {digit : Digit} :
    digit? char = some digit ↔ char.toLower = digitChar digit := by
  have charOfValue : charset.all (fun char =>
      (charset.idxOf? char).map (fun index => digitChar (BitVec.ofNat 5 index)) == some char)
        = true := by
    decide
  have valueOfChar : ∀ digit : Digit,
      (charset.idxOf? (digitChar digit)).map (BitVec.ofNat 5) = some digit := by
    decide
  constructor
  · intro found
    obtain ⟨index, isIndex, rfl⟩ := Option.map_eq_some_iff.mp found
    have isIn : char.toLower ∈ charset := by
      refine Classical.not_not.mp fun absent => ?_
      rw [List.idxOf?_eq_none_iff.mpr absent] at isIndex
      cases isIndex
    have value := List.all_eq_true.mp charOfValue _ isIn
    rw [isIndex, Option.map_some, beq_iff_eq, Option.some.injEq] at value
    exact value.symm
  · intro lower
    rw [digit?, lower]
    exact valueOfChar digit

/-- Digits are read in either letter case. -/
theorem mapM_digit?_eq_some_iff
    {chars : List Char}
    {digits : List Digit} :
    chars.mapM digit? = some digits ↔ chars.map Char.toLower = digits.map digitChar := by
  induction chars generalizing digits with
  | nil => cases digits <;> simp
  | cons char rest inductionHypothesis =>
      rw [List.mapM_cons]
      cases digits with
      | nil => simp [Option.bind_eq_some_iff]
      | cons digit others =>
          simp [Option.bind_eq_some_iff, digit?_eq_some_iff, inductionHypothesis]

private theorem hasNoUpper_digitChars (digits : List Digit) :
    HasNoUpper (digits.map digitChar) := by
  have noneUpper : ∀ digit : Digit, (digitChar digit).isUpper = false := by decide
  simp [HasNoUpper, noneUpper]

private theorem digitChars_inj
    {first second : List Digit}
    (same : first.map digitChar = second.map digitChar) :
    first = second := by
  have read (digits : List Digit) : (digits.map digitChar).mapM digit? = some digits :=
    mapM_digit?_eq_some_iff.mpr (map_toLower_of_hasNoUpper (hasNoUpper_digitChars digits))
  have both := read first
  rw [same, read second, Option.some.injEq] at both
  exact both.symm

/-- The separator is no digit. -/
theorem separator_not_mem
    {chars : List Char}
    {digits : List Digit}
    (lower : chars.map Char.toLower = digits.map digitChar) :
    '1' ∉ chars := by
  have noneSeparator : ∀ digit : Digit, digitChar digit ≠ '1' := by decide
  intro isIn
  have isDigit : Char.toLower '1' ∈ digits.map digitChar := lower ▸ List.mem_map_of_mem isIn
  obtain ⟨digit, -, found⟩ := List.mem_map.mp isDigit
  exact noneSeparator digit found

/-! ## The last separator -/

private theorem splitLast_append
    (front : List Char)
    {back : List Char}
    (absent : '1' ∉ back) :
    splitLast (front ++ '1' :: back) = some (front, back) := by
  have cut : (back.reverse ++ '1' :: front.reverse).span (· != '1')
      = (back.reverse, '1' :: front.reverse) := by
    refine span_append_of_forall (fun char isIn => ?_) (by simp)
    exact bne_iff_ne.mpr fun isSeparator =>
      absent (isSeparator ▸ List.mem_reverse.mp isIn)
  have reversed : (front ++ '1' :: back).reverse = back.reverse ++ '1' :: front.reverse := by simp
  rw [splitLast, reversed, cut]
  simp

private theorem eq_append_of_splitLast
    {chars front back : List Char}
    (split : splitLast chars = some (front, back)) :
    chars = front ++ '1' :: back := by
  unfold splitLast at split
  rw [List.span_eq_takeWhile_dropWhile] at split
  split at split
  · cases split
  · rename_i tail separator head cut
    obtain ⟨rfl, rest⟩ := Prod.mk.inj cut
    cases split
    have isSeparator : separator = '1' := by
      have stops := List.head?_dropWhile_not (· != '1') chars.reverse
      rw [rest] at stops
      simpa using stops
    have whole : chars.reverse.takeWhile (· != '1') ++ chars.reverse.dropWhile (· != '1')
        = chars.reverse := List.takeWhile_append_dropWhile
    rw [rest, isSeparator] at whole
    have turned := congrArg List.reverse whole
    simpa using turned.symm

/-! ## Texts -/

/-- The text of a human-readable part, the separator, digits and their checksum. -/
def spell (variant : Variant) (hrp : String) (digits : List Digit) : String :=
  hrp ++ "1" ++ String.ofList ((digits ++ checksum variant hrp.toList digits).map digitChar)

private theorem toList_spell (variant : Variant) (hrp : String) (digits : List Digit) :
    (spell variant hrp digits).toList
      = hrp.toList ++ '1' :: (digits ++ checksum variant hrp.toList digits).map digitChar := by
  simp [spell]

/-- A text in one letter case that spells digits under a human-readable part. -/
structure Spells (text hrp : String) (variant : Variant) (digits : List Digit) : Prop where
  isHrp : IsHrp hrp
  oneCase : HasNoUpper hrp.toList ∧ text = spell variant hrp digits
    ∨ HasNoLower hrp.toList ∧ text = (spell variant hrp digits).toUpper

/-- What the reader cuts a text into before it looks at the checksum. -/
structure Cut (text : String) (front back : List Char) (digits : List Digit) : Prop where
  parts : text.toList = front ++ '1' :: back
  lower : back.map Char.toLower = digits.map digitChar
  oneCase : HasNoUpper text.toList ∨ HasNoLower text.toList
  isHrp : IsHrp (String.ofList front)

private theorem decode?_eq_some_iff_cut
    {text : String}
    {decoded : Decoded} :
    decode? text = some decoded
      ↔ ∃ front back digits,
        Cut text front back digits
          ∧ 6 ≤ digits.length
          ∧ (∃ variant, hasChecksum variant front digits = true)
          ∧ ⟨String.ofList front, bytesOfDigits (digits.take (digits.length - 6))⟩ = decoded := by
  have anyVariant (front : List Char) (digits : List Digit) :
      (hasChecksum .bech32m front digits || hasChecksum .bech32 front digits) = true
        ↔ ∃ variant, hasChecksum variant front digits = true := by
    rw [Bool.or_eq_true]
    constructor
    · rintro (first | second)
      · exact ⟨_, first⟩
      · exact ⟨_, second⟩
    · rintro ⟨_ | _, checked⟩
      · exact .inr checked
      · exact .inl checked
  constructor
  · intro read
    simp only [decode?, Option.bind_eq_bind, Option.bind_eq_some_iff, Prod.exists] at read
    obtain ⟨front, back, split, digits, digitsRead, read⟩ := read
    split at read
    · cases read
    rename_i oneCase
    split at read
    · cases read
    rename_i checked
    split at read
    · cases read
    rename_i long
    split at read
    · rename_i sum
      have isHrp := (checkHrp_eq_ok_iff _).mp checked
      exact ⟨front, back, digits,
        ⟨eq_append_of_splitLast split, mapM_digit?_eq_some_iff.mp digitsRead,
          oneCase_iff.mp (eq_false_of_ne_true oneCase), isHrp⟩,
        Nat.le_of_not_lt long, (anyVariant _ _).mp sum, Option.some.inj read⟩
    · cases read
  · rintro ⟨front, back, digits, ⟨parts, lower, oneCase, isHrp⟩, long, sum, rfl⟩
    have split := splitLast_append front (separator_not_mem lower)
    have digitsRead := mapM_digit?_eq_some_iff.mpr lower
    have checked := (checkHrp_eq_ok_iff _).mpr isHrp
    rw [← parts] at split
    simp only [decode?, split, digitsRead, Option.bind_eq_bind, Option.bind_some]
    rw [oneCase_iff.mpr oneCase, if_neg Bool.false_ne_true, checked]
    simp only
    rw [if_neg (Nat.not_lt.mpr long), if_pos ((anyVariant _ _).mpr sum)]

/-- With a checksum behind the digits, what is cut is what is spelled. -/
theorem cut_iff_spells
    {text : String}
    {front : List Char}
    {variant : Variant}
    {digits : List Digit} :
    (∃ back, Cut text front back (digits ++ checksum variant front digits))
      ↔ Spells text (String.ofList front) variant digits := by
  have noUpper := hasNoUpper_digitChars (digits ++ checksum variant front digits)
  have spelled := toList_spell variant (String.ofList front) digits
  rw [String.toList_ofList] at spelled
  constructor
  · rintro ⟨back, parts, lower, oneCase, isHrp⟩
    rw [← lower] at spelled
    rw [parts, hasNoUpper_append, hasNoLower_append] at oneCase
    refine ⟨isHrp, ?_⟩
    rw [String.toList_ofList, ← String.toList_inj, ← String.toList_inj, String.toUpper,
      String.toList_map, spelled, parts]
    rcases oneCase with ⟨frontCase, restCase⟩ | ⟨frontCase, restCase⟩
    · have backCase : HasNoUpper back := (List.forall_mem_cons.mp restCase).2
      exact .inl ⟨frontCase, by rw [map_toLower_of_hasNoUpper backCase]⟩
    · have backCase : HasNoLower back := (List.forall_mem_cons.mp restCase).2
      refine .inr ⟨frontCase, ?_⟩
      rw [List.map_append, List.map_cons, map_toUpper_of_hasNoLower frontCase,
        map_toUpper_map_toLower, map_toUpper_of_hasNoLower backCase]
      rfl
  · rintro ⟨isHrp, oneCase⟩
    rw [String.toList_ofList] at oneCase
    rcases oneCase with ⟨frontCase, rfl⟩ | ⟨frontCase, rfl⟩
    · refine ⟨_, spelled, map_toLower_of_hasNoUpper noUpper, .inl ?_, isHrp⟩
      rw [spelled, hasNoUpper_append]
      exact ⟨frontCase, List.forall_mem_cons.mpr ⟨by decide, noUpper⟩⟩
    · have raised : (spell variant (String.ofList front) digits).toUpper.toList
          = ((spell variant (String.ofList front) digits).toList).map Char.toUpper :=
        String.toList_map
      refine ⟨((digits ++ checksum variant front digits).map digitChar).map Char.toUpper, ?_, ?_,
        .inr (raised ▸ hasNoLower_map_toUpper _), isHrp⟩
      · rw [raised, spelled, List.map_append, List.map_cons, map_toUpper_of_hasNoLower frontCase]
        rfl
      · rw [map_toLower_map_toUpper, map_toLower_of_hasNoUpper noUpper]

/-- The reader takes the texts that spell some digits in either variant, and drops what is left over
behind the last whole byte. -/
theorem decode?_eq_some_iff
    {text : String}
    {decoded : Decoded} :
    decode? text = some decoded
      ↔ ∃ variant digits,
        Spells text decoded.hrp variant digits ∧ bytesOfDigits digits = decoded.payload := by
  rw [decode?_eq_some_iff_cut]
  constructor
  · rintro ⟨front, back, all, cut, long, ⟨variant, sum⟩, rfl⟩
    have six : (all.drop (all.length - 6)).length = 6 := by
      rw [List.length_drop]
      omega
    have whole := List.take_append_drop (all.length - 6) all
    rw [← whole, hasChecksum_append_iff six] at sum
    rw [sum] at whole
    refine ⟨variant, all.take (all.length - 6), cut_iff_spells.mp ⟨back, ?_⟩, rfl⟩
    rwa [whole]
  · rintro ⟨variant, digits, spells, payload⟩
    have decodedEq : decoded = ⟨String.ofList decoded.hrp.toList, bytesOfDigits digits⟩ := by
      rw [String.ofList_toList, payload]
    rw [← String.ofList_toList (s := decoded.hrp)] at spells
    obtain ⟨back, cut⟩ := cut_iff_spells.mpr spells
    have length := length_checksum variant decoded.hrp.toList digits
    refine ⟨decoded.hrp.toList, back, _, cut, ?_, ⟨variant, (hasChecksum_append_iff length).mpr rfl⟩,
      ?_⟩
    · rw [List.length_append, length]
      omega
    · rw [List.length_append, length, Nat.add_sub_cancel, List.take_left, ← decodedEq]

/-! ## One reading -/

private theorem checksum_of_sameLower
    {hrp otherHrp : List Char}
    (sameHrp : hrp.map Char.toLower = otherHrp.map Char.toLower)
    (variant : Variant)
    (digits : List Digit) :
    checksum variant hrp digits = checksum variant otherHrp digits := by
  have points : hrp.map (fun char => char.toLower.toNat)
      = otherHrp.map (fun char => char.toLower.toNat) := by
    have mapped := congrArg (List.map Char.toNat) sameHrp
    rwa [List.map_map, List.map_map] at mapped
  rw [checksum, checksum, expandHrp, expandHrp, points]

private theorem map_toLower_spell (variant : Variant) (hrp : String) (digits : List Digit) :
    (spell variant hrp digits).toList.map Char.toLower
      = hrp.toList.map Char.toLower
        ++ '1' :: (digits ++ checksum variant hrp.toList digits).map digitChar := by
  rw [toList_spell, List.map_append, List.map_cons,
    map_toLower_of_hasNoUpper (hasNoUpper_digitChars _)]
  rfl

theorem spell_sameLower
    {hrp otherHrp : String}
    (sameHrp : hrp.toList.map Char.toLower = otherHrp.toList.map Char.toLower)
    (variant : Variant)
    (digits : List Digit) :
    (spell variant hrp digits).toList.map Char.toLower
      = (spell variant otherHrp digits).toList.map Char.toLower := by
  rw [map_toLower_spell, map_toLower_spell, sameHrp, checksum_of_sameLower sameHrp]

/-- The letter case of a text does not tell variants or digits apart. -/
theorem spell_inj_of_sameLower
    {hrp otherHrp : String}
    {variant otherVariant : Variant}
    {digits otherDigits : List Digit}
    (sameHrp : hrp.toList.map Char.toLower = otherHrp.toList.map Char.toLower)
    (sameText : (spell variant hrp digits).toList.map Char.toLower
      = (spell otherVariant otherHrp otherDigits).toList.map Char.toLower) :
    variant = otherVariant ∧ digits = otherDigits := by
  rw [map_toLower_spell, map_toLower_spell, sameHrp, checksum_of_sameLower sameHrp,
    List.append_cancel_left_eq, List.cons_inj_right] at sameText
  have lengths := length_checksum variant otherHrp.toList digits
  have otherLengths := length_checksum otherVariant otherHrp.toList otherDigits
  obtain ⟨sameDigits, sameChecksum⟩ :=
    List.append_inj' (digitChars_inj sameText) (lengths.trans otherLengths.symm)
  rw [← sameDigits] at sameChecksum
  exact ⟨variant_eq_of_checksum_eq sameChecksum, sameDigits⟩

theorem Spells.sameLower
    {text hrp : String}
    {variant : Variant}
    {digits : List Digit}
    (spells : Spells text hrp variant digits) :
    text.toList.map Char.toLower = (spell variant hrp digits).toList.map Char.toLower := by
  rcases spells.oneCase with ⟨-, rfl⟩ | ⟨-, rfl⟩
  · rfl
  · rw [String.toUpper, String.toList_map, map_toLower_map_toUpper]

/-- A text spells one list of digits, under one human-readable part and in one variant. -/
theorem Spells.unique
    {text hrp otherHrp : String}
    {variant otherVariant : Variant}
    {digits otherDigits : List Digit}
    (one : Spells text hrp variant digits)
    (other : Spells text otherHrp otherVariant otherDigits) :
    hrp = otherHrp ∧ variant = otherVariant ∧ digits = otherDigits := by
  have read : decode? text = some ⟨hrp, bytesOfDigits digits⟩ :=
    decode?_eq_some_iff.mpr ⟨_, _, one, rfl⟩
  have otherRead : decode? text = some ⟨otherHrp, bytesOfDigits otherDigits⟩ :=
    decode?_eq_some_iff.mpr ⟨_, _, other, rfl⟩
  have sameHrp : hrp = otherHrp :=
    congrArg Decoded.hrp (Option.some.inj (read.symm.trans otherRead))
  exact ⟨sameHrp, spell_inj_of_sameLower (by rw [sameHrp]) (one.sameLower.symm.trans other.sameLower)⟩

end ChainTx.Bech32
