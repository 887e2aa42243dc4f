import ChainTx.Cosmos.MessageBody
import ChainTx.Proofs.Checks
import ChainTx.Proofs.Coin

/-!
Contract: the texts of coins.

Owns:
- the texts that write a coin, said as a grammar, and that a coin is read from these texts and from no
  others;
- that whatever is wrong with another text is a fault of the field that it stands in;
- the text of a coin as the one of its texts without zeros in front, which is read back, and the
  amount in a transaction as the digits of that text.

Does not own: which of its faults another text has.
-/

set_option autoImplicit false

namespace ChainTx.Coin

open Decimal

/-- The characters are ASCII digits of the coin's amount, which is a positive number of 128 bits, and,
right behind them, the coin's denomination. -/
def Writes (chars : List Char) (coin : Coin) : Prop :=
  ∃ run,
    chars = run ++ coin.denom.toList
      ∧ IsRun run
      ∧ IsDenomination coin.denom.toList
      ∧ 1 ≤ value run
      ∧ value run < 2 ^ 128
      ∧ coin.amount.toNat = value run

private theorem amount?_eq_some_iff
    {run : List Char}
    {amount : BitVec 128} :
    amount? run = some amount ↔ IsRun run ∧ amount.toNat = value run := by
  unfold amount?
  cases read : read? run with
  | none =>
      have noRun : ¬ IsRun run := by
        intro isRun
        rw [read?_eq_some_iff.mpr ⟨isRun, rfl⟩] at read
        cases read
      simp [noRun]
  | some number =>
      obtain ⟨isRun, rfl⟩ := read?_eq_some_iff.mp read
      simp only [isRun, true_and, Option.ite_none_right_eq_some, Option.some.injEq]
      constructor
      · rintro ⟨small, rfl⟩
        rw [BitVec.toNat_ofNat, Nat.mod_eq_of_lt small]
      · intro same
        rw [← same, BitVec.ofNat_toNat, BitVec.setWidth_eq]
        exact ⟨amount.isLt, rfl⟩

variable {field raw : String} {coin : Coin}

/-- What is read depends on the two parts of a text. -/
theorem parse_eq_ok_iff_of_split
    {run denom : List Char}
    (cut : splitDigits raw.toList = (run, denom)) :
    parse field raw = .ok coin
      ↔ IsDenomination denom
        ∧ amount? run = some coin.amount
        ∧ coin.amount ≠ 0
        ∧ String.ofList denom = coin.denom := by
  obtain ⟨amount, denomination⟩ := coin
  simp only [parse, cut]
  rw [← isDenom_iff]
  cases isDenom denom with
  | false => simp
  | true =>
      cases found : amount? run with
      | none =>
          simp only [reduceCtorEq, false_and, and_false, iff_false]
          split <;> nofun
      | some number =>
          have nonempty : run.isEmpty = false :=
            List.isEmpty_eq_false_iff.mpr (amount?_eq_some_iff.mp found).1.1
          simp only [nonempty, Bool.not_true, Bool.or_self, Bool.false_eq_true, if_false, true_and,
            Option.some.injEq]
          split
          · rename_i zero
            constructor
            · nofun
            · rintro ⟨rfl, positive, -⟩
              exact absurd zero positive
          · rename_i positive
            rw [Except.ok.injEq, Coin.mk.injEq]
            constructor
            · rintro ⟨rfl, rfl⟩
              exact ⟨rfl, positive, rfl⟩
            · rintro ⟨rfl, -, rfl⟩
              exact ⟨rfl, rfl⟩

private theorem parse_eq_ok_iff :
    parse field raw = .ok coin ↔ Writes raw.toList coin := by
  have positive_iff : coin.amount ≠ 0 ↔ 1 ≤ coin.amount.toNat := by
    rw [Nat.one_le_iff_ne_zero, Ne, Ne, ← BitVec.toNat_inj]
    rfl
  constructor
  · intro read
    obtain ⟨isDenom, amount, positive, denom⟩ := (parse_eq_ok_iff_of_split rfl).mp read
    obtain ⟨isRun, same⟩ := amount?_eq_some_iff.mp amount
    refine ⟨_, ?_, isRun, ?_, ?_, ?_, same⟩
    · rw [← denom, String.toList_ofList]
      exact eq_append_of_splitDigits rfl
    · rwa [← denom, String.toList_ofList]
    · rw [← same]
      exact positive_iff.mp positive
    · rw [← same]
      exact coin.amount.isLt
  · rintro ⟨run, chars, isRun, isDenom, positive, -, same⟩
    have cut : splitDigits raw.toList = (run, coin.denom.toList) := by
      rw [chars]
      exact splitDigits_append isRun.2 isDenom.not_isDecimalDigit_head
    refine (parse_eq_ok_iff_of_split cut).mpr ⟨isDenom, amount?_eq_some_iff.mpr ⟨isRun, same⟩, ?_, ?_⟩
    · exact positive_iff.mpr (same ▸ positive)
    · exact String.ofList_toList

/-- A text is read, or something is wrong with its field. -/
theorem parse_eq_ok_or_fault
    (field raw : String) :
    (∃ coin, parse field raw = .ok coin)
      ∨ ∃ fault, parse field raw = .error (.validation field fault) := by
  simp only [parse]
  split
  · exact .inr ⟨_, rfl⟩
  · split
    · exact .inr ⟨_, rfl⟩
    · split
      · exact .inr ⟨_, rfl⟩
      · exact .inl ⟨_, rfl⟩

/-- The text of a coin is what remains of each of its texts without the zeros in front. -/
theorem Writes.toList_text
    {chars : List Char}
    (writes : Writes chars coin) :
    coin.text.toList = chars.dropWhile (· == '0') := by
  obtain ⟨run, rfl, isRun, -, positive, -, same⟩ := writes
  have dropped := dropWhile_zero isRun.2
  rw [if_neg (by omega), ← same] at dropped
  have nonempty : (digits coin.amount.toNat).isEmpty = false :=
    List.isEmpty_eq_false_iff.mpr (isCanonical_digits coin.amount.toNat).isRun.1
  rw [List.dropWhile_append, dropped, nonempty, if_neg (by decide), Coin.text, Decimal.text,
    String.toList_append, String.toList_ofList]

/-- The text of a coin that some text writes writes it too. -/
theorem Writes.text
    {chars : List Char}
    (writes : Writes chars coin) :
    Writes coin.text.toList coin := by
  obtain ⟨run, -, -, isDenom, positive, small, same⟩ := writes
  have ⟨isRun, _, value_eq⟩ := isCanonical_digits coin.amount.toNat
  refine ⟨digits coin.amount.toNat, ?_, isRun, isDenom, ?_, ?_, value_eq.symm⟩
  · rw [Coin.text, Decimal.text, String.toList_append, String.toList_ofList]
  · omega
  · omega

/-- A coin is read exactly from the texts that write it; every other text is a fault of its field. The
text of the coin that is read has lost the zeros in front and nothing else, it is read as the same
coin, and its digits are the amount that a transaction carries. -/
theorem parse_exactly_written (field raw : String) :
    (∀ coin, parse field raw = .ok coin ↔ Writes raw.toList coin)
      ∧ ((∀ coin, ¬ Writes raw.toList coin) →
        ∃ fault, parse field raw = .error (.validation field fault))
      ∧ ∀ coin, parse field raw = .ok coin →
        coin.text.toList = raw.toList.dropWhile (· == '0')
          ∧ (∀ other, parse other coin.text = .ok coin)
          ∧ (Cosmos.CoinText.ofCoin coin).denom = coin.denom
          ∧ coin.text = (Cosmos.CoinText.ofCoin coin).amount ++ coin.denom := by
  refine ⟨fun coin => parse_eq_ok_iff, fun unwritten => ?_, fun coin read => ?_⟩
  · refine (parse_eq_ok_or_fault field raw).resolve_left ?_
    rintro ⟨coin, read⟩
    exact unwritten coin (parse_eq_ok_iff.mp read)
  · have writes := parse_eq_ok_iff.mp read
    exact ⟨writes.toList_text, fun other => parse_eq_ok_iff.mpr writes.text, rfl, rfl⟩

/-- Zeros in front of the largest amount do not count; a digit of another script and a line break
behind the denomination are refused. -/
theorem parse_of_sampleTexts :
    Writes "00340282366920938463463374607431768211455ibc/27".toList ⟨BitVec.allOnes 128, "ibc/27"⟩
      ∧ parse "amount" "340282366920938463463374607431768211455ibc/27"
        = .ok ⟨BitVec.allOnes 128, "ibc/27"⟩
      ∧ (∃ fault, parse "amount" "٣stake" = .error (.validation "amount" fault))
      ∧ ∃ fault, parse "fee" "5stake\n" = .error (.validation "fee" fault) := by
  have read : parse "amount" "00340282366920938463463374607431768211455ibc/27"
      = .ok ⟨BitVec.allOnes 128, "ibc/27"⟩ :=
    eq_ok_of_toOption (by decide +kernel)
  have written := ((parse_exactly_written _ _).1 _).mp read
  have text : (⟨BitVec.allOnes 128, "ibc/27"⟩ : Coin).text
      = "340282366920938463463374607431768211455ibc/27" := by
    decide +kernel
  have again := ((parse_exactly_written _ _).2.2 _ read).2.1 "amount"
  rw [text] at again
  have foreign : ∀ coin, ¬ Writes "٣stake".toList coin := by
    intro coin writes
    have refused : (parse "amount" "٣stake").toOption = none := by
      decide +kernel
    rw [parse_eq_ok_iff.mpr writes] at refused
    cases refused
  have broken : ∀ coin, ¬ Writes "5stake\n".toList coin := by
    intro coin writes
    have refused : (parse "fee" "5stake\n").toOption = none := by
      decide +kernel
    rw [parse_eq_ok_iff.mpr writes] at refused
    cases refused
  exact ⟨written, again, (parse_exactly_written _ _).2.1 foreign,
    (parse_exactly_written _ _).2.1 broken⟩

end ChainTx.Coin
