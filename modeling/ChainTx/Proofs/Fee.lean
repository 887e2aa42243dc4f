import ChainTx.Fee
import ChainTx.Proofs.Coin

/-!
Contract: fees are exact.

Owns:
- the texts of prices, said as a grammar: a decimal in one of four forms, and a denomination behind
  it;
- that a price is read from these texts and no others, with all its digits and the count of those
  behind the point;
- the fee for every gas limit and every requested price, as one rounded quotient.

No digit is lost on the way, so the quotient is the only place where anything is rounded.
-/

set_option autoImplicit false

namespace ChainTx

namespace GasPrice

open Decimal Coin

/-! ## Texts of prices -/

/-- A decimal with the digits in front of the point and those behind it: digits alone, or digits with a
point behind, inside or in front of them. -/
inductive IsDecimal : List Char → List Char → List Char → Prop where
  | whole {whole : List Char} (digits : IsRun whole) : IsDecimal whole whole []
  | pointBehind {whole : List Char} (digits : IsRun whole) : IsDecimal (whole ++ ['.']) whole []
  | pointInside {whole fraction : List Char} (digits : IsRun whole) (behind : IsRun fraction) :
      IsDecimal (whole ++ '.' :: fraction) whole fraction
  | pointBefore {fraction : List Char} (behind : IsRun fraction) :
      IsDecimal ('.' :: fraction) [] fraction

private theorem IsDecimal.isRun
    {decimal whole fraction : List Char}
    (isDecimal : IsDecimal decimal whole fraction) :
    IsRun (whole ++ fraction) := by
  cases isDecimal with
  | whole digits | pointBehind digits =>
      rw [List.append_nil]
      exact digits
  | pointInside digits behind =>
      exact ⟨by simp [digits.1], List.forall_mem_append.mpr ⟨digits.2, behind.2⟩⟩
  | pointBefore behind => exact behind

/-- The characters are a decimal with the price's digits and, right behind it, the price's
denomination. -/
def Writes (chars : List Char) (price : GasPrice) : Prop :=
  ∃ decimal whole fraction,
    chars = decimal ++ price.denom.toList
      ∧ IsDecimal decimal whole fraction
      ∧ IsDenomination price.denom.toList
      ∧ price.digits = value (whole ++ fraction)
      ∧ price.scale = fraction.length

private theorem Writes.ne_nil
    {chars : List Char}
    {price : GasPrice}
    (writes : Writes chars price) :
    chars ≠ [] := by
  obtain ⟨decimal, _, _, rfl, -, ⟨first, rest, denom, -⟩, -⟩ := writes
  simp [denom]

private theorem point_not_isDecimalDigit : isDecimalDigit '.' = false :=
  not_isDecimalDigit_of_ascii (by decide) (by unfold IsAsciiDigit; decide)

/-- The decimal in front of a denomination is cut into its two parts. -/
theorem split_of_isDecimal
    {decimal whole fraction denom : List Char}
    (isDecimal : IsDecimal decimal whole fraction)
    (isDenom : IsDenomination denom) :
    ∃ rest,
      splitDigits (decimal ++ denom) = (whole, rest)
        ∧ splitFraction rest = (fraction, denom) := by
  have stops := isDenom.not_isDecimalDigit_head
  have pointStops {behind : List Char} :
      ∀ char ∈ ('.' :: behind).head?, isDecimalDigit char = false := by
    rintro char ⟨⟩
    exact point_not_isDecimalDigit
  cases isDecimal with
  | whole digits =>
      refine ⟨denom, splitDigits_append digits.2 stops, ?_⟩
      obtain ⟨first, rest, rfl, isLetter, -⟩ := isDenom
      have notPoint : first ≠ '.' := by
        rintro rfl
        exact absurd isLetter (by unfold IsAsciiLetter; decide)
      rw [splitFraction]
      intro behind same
      exact notPoint (List.cons.inj same).1
  | pointBehind digits =>
      rw [List.append_assoc, List.singleton_append]
      exact ⟨'.' :: denom, splitDigits_append digits.2 pointStops,
        splitDigits_append (List.forall_mem_nil _) stops⟩
  | pointInside digits behind =>
      rw [List.append_assoc, List.cons_append]
      exact ⟨_, splitDigits_append digits.2 pointStops, splitDigits_append behind.2 stops⟩
  | pointBefore behind =>
      exact ⟨_, splitDigits_append (List.forall_mem_nil _) pointStops,
        splitDigits_append behind.2 stops⟩

/-- The two parts that a text is cut into are the parts of a decimal, if they are ASCII digits. -/
theorem exists_isDecimal
    {chars whole rest fraction denom : List Char}
    (cut : splitDigits chars = (whole, rest))
    (cutFraction : splitFraction rest = (fraction, denom))
    (digits : IsRun (whole ++ fraction)) :
    ∃ decimal, chars = decimal ++ denom ∧ IsDecimal decimal whole fraction := by
  obtain ⟨nonempty, areDigits⟩ := digits
  have ⟨wholeDigits, fractionDigits⟩ := List.forall_mem_append.mp areDigits
  rw [eq_append_of_splitDigits cut]
  unfold splitFraction at cutFraction
  split at cutFraction
  · rename_i behind
    rw [eq_append_of_splitDigits cutFraction]
    by_cases noWhole : whole = []
    · rw [noWhole, List.nil_append] at nonempty ⊢
      exact ⟨'.' :: fraction, rfl, .pointBefore ⟨nonempty, fractionDigits⟩⟩
    by_cases noFraction : fraction = []
    · rw [noFraction]
      exact ⟨whole ++ ['.'], by simp, .pointBehind ⟨noWhole, wholeDigits⟩⟩
    · exact ⟨whole ++ '.' :: fraction, by simp,
        .pointInside ⟨noWhole, wholeDigits⟩ ⟨noFraction, fractionDigits⟩⟩
  · cases cutFraction
    rw [List.append_nil] at nonempty
    exact ⟨whole, rfl, .whole ⟨nonempty, wholeDigits⟩⟩

/-- What is read from a text depends on its parts: the digits must be ASCII digits, at least one, and
the rest a denomination. -/
theorem ofChars?_eq_some_iff_of_split
    {chars whole rest fraction denom : List Char}
    {price : GasPrice}
    (cut : splitDigits chars = (whole, rest))
    (cutFraction : splitFraction rest = (fraction, denom)) :
    ofChars? chars = some price
      ↔ IsRun (whole ++ fraction)
        ∧ IsDenomination denom
        ∧ price = ⟨value (whole ++ fraction), fraction.length, String.ofList denom⟩ := by
  simp only [ofChars?, cut, cutFraction]
  cases found : read? (whole ++ fraction) with
  | none =>
      have notRun : ¬ IsRun (whole ++ fraction) := by
        intro isRun
        have read := read?_eq_some_iff.mpr ⟨isRun, rfl⟩
        rw [found] at read
        cases read
      simp [notRun]
  | some number =>
      obtain ⟨isRun, rfl⟩ := read?_eq_some_iff.mp found
      have nonempty : ¬ (whole.isEmpty && fraction.isEmpty) = true := by
        simpa using isRun.1
      rw [← isDenom_iff]
      cases isDenom denom with
      | false => simp
      | true => simp [nonempty, isRun, eq_comm]

/-- A price is read from the texts that write it. -/
theorem ofChars?_eq_some_iff
    {chars : List Char}
    {price : GasPrice} :
    ofChars? chars = some price ↔ Writes chars price := by
  constructor
  · intro read
    obtain ⟨digits, isDenom, rfl⟩ := (ofChars?_eq_some_iff_of_split rfl rfl).mp read
    obtain ⟨decimal, shape, isDecimal⟩ := exists_isDecimal rfl rfl digits
    refine ⟨decimal, _, _, ?_, isDecimal, ?_, rfl, rfl⟩
    · rw [String.toList_ofList]
      exact shape
    · rw [String.toList_ofList]
      exact isDenom
  · rintro ⟨decimal, whole, fraction, rfl, isDecimal, isDenom, digits, scale⟩
    obtain ⟨rest, cut, cutFraction⟩ := split_of_isDecimal isDecimal isDenom
    refine (ofChars?_eq_some_iff_of_split cut cutFraction).mpr ⟨isDecimal.isRun, isDenom, ?_⟩
    rw [String.ofList_toList, ← digits, ← scale]

private theorem parse_of_writes
    {raw : String}
    {price : GasPrice}
    (writes : Writes raw.toList price) :
    parse raw = .ok price := by
  rw [parse, ofChars?_eq_some_iff.mpr writes]

private theorem parse_of_malformed
    {raw : String}
    (malformed : ∀ price, ¬ Writes raw.toList price) :
    parse raw = .error (.validation "gasPrice" (.malformedGasPrice raw)) := by
  have unread : ofChars? raw.toList = none := by
    rw [Option.eq_none_iff_forall_ne_some]
    intro price read
    exact malformed price (ofChars?_eq_some_iff.mp read)
  rw [parse, unread]

end GasPrice

/-! ## Fees -/

section Fees

variable {gasLimit : UInt64} {raw : String} {price : GasPrice}

private theorem requestedPrice?_of_filled (filled : Blank.trim raw ≠ "") :
    requestedPrice? (some raw) = some (Blank.trim raw) := by
  simp [requestedPrice?, filled]

private theorem cosmosFee_of_blank (blank : Blank.trim raw = "") :
    cosmosFee gasLimit (some raw) = .ok [] := by
  simp [cosmosFee, requestedPrice?, blank]

private theorem cosmosFee_of_malformed
    (filled : Blank.trim raw ≠ "")
    (malformed : ∀ price, ¬ GasPrice.Writes (Blank.trim raw).toList price) :
    cosmosFee gasLimit (some raw)
      = .error (.validation "gasPrice" (.malformedGasPrice (Blank.trim raw))) := by
  rw [cosmosFee, requestedPrice?_of_filled filled]
  simp only [GasPrice.parse_of_malformed malformed]
  rfl

/-- The fee at a price: the cost, if it is a positive number of 128 bits. -/
theorem cosmosFee_of_writes (writes : GasPrice.Writes (Blank.trim raw).toList price) :
    cosmosFee gasLimit (some raw)
      = if price.cost gasLimit = 0 then .ok []
        else if price.cost gasLimit < 2 ^ 128 then
          .ok [⟨BitVec.ofNat 128 (price.cost gasLimit), price.denom⟩]
        else .error (.validation "gasPrice" (.feeTooLarge (price.cost gasLimit))) := by
  have filled : Blank.trim raw ≠ "" := by
    intro blank
    exact writes.ne_nil (by rw [blank, String.toList_empty])
  rw [cosmosFee, requestedPrice?_of_filled filled]
  simp only [GasPrice.parse_of_writes writes]
  rfl

/-- The fee is exact. There is none where no price is requested or the request is blank, and none for a
total below one unit; the total is the number of all digits of the price times the gas limit, divided by
ten for each digit behind the point and rounded down once. A text that is no price is an error of the
gas price for every gas limit, and so is a total of more than 128 bits. -/
theorem cosmosFee_exact (gasLimit : UInt64) :
    cosmosFee gasLimit none = .ok []
      ∧ ∀ raw trimmed : String, Blank.trim raw = trimmed →
        (trimmed = "" → cosmosFee gasLimit (some raw) = .ok [])
          ∧ (trimmed ≠ "" → (∀ price, ¬ GasPrice.Writes trimmed.toList price) →
            cosmosFee gasLimit (some raw)
              = .error (.validation "gasPrice" (.malformedGasPrice trimmed)))
          ∧ ∀ (price : GasPrice) (total : Nat), GasPrice.Writes trimmed.toList price →
            price.digits * gasLimit.toNat / 10 ^ price.scale = total →
              (total = 0 → cosmosFee gasLimit (some raw) = .ok [])
                ∧ (0 < total → total < 2 ^ 128 →
                  ∃ coin, cosmosFee gasLimit (some raw) = .ok [coin]
                    ∧ coin.amount.toNat = total
                    ∧ coin.denom = price.denom)
                ∧ (2 ^ 128 ≤ total →
                  cosmosFee gasLimit (some raw)
                    = .error (.validation "gasPrice" (.feeTooLarge total))) := by
  refine ⟨rfl, ?_⟩
  rintro raw _ rfl
  refine ⟨cosmosFee_of_blank, cosmosFee_of_malformed, ?_⟩
  rintro price total writes quotient
  have cost : price.cost gasLimit = total := quotient
  have fee : cosmosFee gasLimit (some raw) = _ := cosmosFee_of_writes writes
  rw [cost] at fee
  refine ⟨fun none => ?_, fun some fits => ?_, fun large => ?_⟩
  · rw [fee, if_pos none]
  · rw [fee, if_neg (by omega), if_pos fits]
    exact ⟨_, rfl, by rw [BitVec.toNat_ofNat, Nat.mod_eq_of_lt fits], rfl⟩
  · rw [fee, if_neg (by omega), if_neg (by omega)]

end Fees

/-- Blanks around a price do not count, and a total is rounded down; the first total of 129 bits is
refused; a digit of another script is no digit of a price, also where no gas is bought. -/
theorem cosmosFee_of_samples :
    GasPrice.Writes ".0333uatom".toList ⟨333, 4, "uatom"⟩
      ∧ (∃ coin, cosmosFee 1000 (some " .0333uatom\n") = .ok [coin]
        ∧ coin.amount.toNat = 33
        ∧ coin.denom = "uatom")
      ∧ cosmosFee 2 (some "170141183460469231731687303715884105728a")
        = .error (.validation "gasPrice" (.feeTooLarge (2 ^ 128)))
      ∧ cosmosFee 0 (some "٣stake")
        = .error (.validation "gasPrice" (.malformedGasPrice "٣stake")) := by
  have small : GasPrice.Writes ".0333uatom".toList ⟨333, 4, "uatom"⟩ :=
    GasPrice.ofChars?_eq_some_iff.mp (by decide +kernel)
  have large : GasPrice.Writes "170141183460469231731687303715884105728a".toList
      ⟨170141183460469231731687303715884105728, 0, "a"⟩ :=
    GasPrice.ofChars?_eq_some_iff.mp (by decide +kernel)
  have foreign : ∀ price, ¬ GasPrice.Writes "٣stake".toList price := by
    intro price writes
    have unread : GasPrice.ofChars? "٣stake".toList = none := by decide +kernel
    rw [GasPrice.ofChars?_eq_some_iff.mpr writes] at unread
    cases unread
  refine ⟨small, ?_, ?_, ?_⟩
  · exact (((cosmosFee_exact 1000).2 _ _ (by decide +kernel)).2.2 _ 33 small (by decide)).2.1
      (by decide) (by decide)
  · exact (((cosmosFee_exact 2).2 _ _ (by decide +kernel)).2.2 _ (2 ^ 128) large (by decide)).2.2
      (by decide)
  · exact ((cosmosFee_exact 0).2 _ _ (by decide +kernel)).2.1 (by decide) foreign

end ChainTx
