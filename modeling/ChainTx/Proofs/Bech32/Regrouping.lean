import ChainTx.Bech32

/-!
Contract: payloads of bytes and their digits of five bits.

Owns:
- bits of a fixed width and the numbers that they spell, which tell each other;
- the bits of digits and of bytes, and what cutting them the other way leaves over: digits are filled
  up with zero bits, and what is less than a byte is dropped;
- that the digits of a payload are read as the payload, and which digits are the digits of the
  payload that they are read as.

Does not own: the characters that digits are written with.
-/

set_option autoImplicit false

namespace ChainTx.Bech32

/-! ## Bits of numbers -/

private theorem length_bitsOf (width number : Nat) : (bitsOf width number).length = width := by
  induction width with
  | zero => rfl
  | succ width inductionHypothesis => rw [bitsOf, List.length_cons, inductionHypothesis]

private theorem ofBits_cons (bit : Bool) (rest : List Bool) :
    ofBits (bit :: rest) = bit.toNat * 2 ^ rest.length + ofBits rest := by
  have fold (prior : Nat) (bits : List Bool) :
      bits.foldl (fun prior bit => 2 * prior + bit.toNat) prior
        = prior * 2 ^ bits.length + ofBits bits := by
    induction bits generalizing prior with
    | nil => simp [ofBits]
    | cons bit rest inductionHypothesis =>
        rw [ofBits, List.foldl_cons, List.foldl_cons, inductionHypothesis, inductionHypothesis (_ + _),
          List.length_cons, Nat.pow_succ]
        grind
  rw [ofBits, List.foldl_cons, fold]
  simp

private theorem ofBits_lt (bits : List Bool) : ofBits bits < 2 ^ bits.length := by
  induction bits with
  | nil => decide
  | cons bit rest inductionHypothesis =>
      have bitLe := bit.toNat_le
      rw [ofBits_cons, List.length_cons, Nat.pow_succ]
      cases bit <;> simp <;> omega

private theorem ofBits_bitsOf (width number : Nat) : ofBits (bitsOf width number) = number % 2 ^ width := by
  induction width with
  | zero => rw [Nat.pow_zero, Nat.mod_one]; rfl
  | succ width inductionHypothesis =>
      rw [bitsOf, ofBits_cons, length_bitsOf, inductionHypothesis, Nat.toNat_testBit,
        Nat.mod_pow_succ, Nat.mul_comm, Nat.add_comm]

/-- Bits of one width are told apart by their number. -/
theorem bits_eq_of_ofBits_eq
    {first second : List Bool}
    (sameLength : first.length = second.length)
    (sameNumber : ofBits first = ofBits second) :
    first = second := by
  induction first generalizing second with
  | nil => exact (List.length_eq_zero_iff.mp sameLength.symm).symm
  | cons bit rest inductionHypothesis =>
      match second, sameLength with
      | other :: others, sameLength =>
          have sameRest : rest.length = others.length := Nat.succ.inj sameLength
          have restLt := ofBits_lt rest
          have othersLt := ofBits_lt others
          rw [ofBits_cons, ofBits_cons, ← sameRest] at sameNumber
          rw [← sameRest] at othersLt
          generalize 2 ^ rest.length = weight at sameNumber restLt othersLt
          have sameParts : bit = other ∧ ofBits rest = ofBits others := by
            cases bit <;> cases other <;>
              simp only [Bool.toNat_true, Bool.toNat_false, Nat.one_mul, Nat.zero_mul, true_and,
                reduceCtorEq, false_and] at sameNumber ⊢ <;> omega
          rw [sameParts.1, inductionHypothesis sameRest sameParts.2]

private theorem bitsOf_ofBits
    {width : Nat}
    {bits : List Bool}
    (length : bits.length = width) :
    bitsOf width (ofBits bits) = bits := by
  refine bits_eq_of_ofBits_eq ((length_bitsOf _ _).trans length.symm) ?_
  rw [ofBits_bitsOf, Nat.mod_eq_of_lt (length ▸ ofBits_lt bits)]

private theorem bitsOf_toNat_digit
    {bits : List Bool}
    (five : bits.length = 5) :
    bitsOf 5 (BitVec.ofNat 5 (ofBits bits)).toNat = bits := by
  have digitLt : ofBits bits < 2 ^ 5 := five ▸ ofBits_lt bits
  rw [BitVec.toNat_ofNat, Nat.mod_eq_of_lt digitLt, bitsOf_ofBits five]

private theorem bitsOf_toNat_byte
    {bits : List Bool}
    (eight : bits.length = 8) :
    bitsOf 8 (UInt8.ofNat (ofBits bits)).toNat = bits := by
  have byteLt : ofBits bits < 2 ^ 8 := eight ▸ ofBits_lt bits
  rw [UInt8.toNat_ofNat', Nat.mod_eq_of_lt byteLt, bitsOf_ofBits eight]

/-! ## Bits of digits and of bytes -/

def bitsOfDigits (digits : List Digit) : List Bool :=
  digits.flatMap fun digit => bitsOf 5 digit.toNat

def bitsOfBytes (bytes : Bytes) : List Bool :=
  bytes.flatMap fun byte => bitsOf 8 byte.toNat

private theorem length_bitsOfDigits (digits : List Digit) :
    (bitsOfDigits digits).length = 5 * digits.length := by
  induction digits with
  | nil => rfl
  | cons digit rest inductionHypothesis =>
      rw [bitsOfDigits, List.flatMap_cons, ← bitsOfDigits, List.length_append, length_bitsOf,
        inductionHypothesis, List.length_cons]
      omega

private theorem length_bitsOfBytes (bytes : Bytes) :
    (bitsOfBytes bytes).length = 8 * bytes.length := by
  induction bytes with
  | nil => rfl
  | cons byte rest inductionHypothesis =>
      rw [bitsOfBytes, List.flatMap_cons, ← bitsOfBytes, List.length_append, length_bitsOf,
        inductionHypothesis, List.length_cons]
      omega

private theorem digitsOfBits_append
    {bits : List Bool}
    (five : bits.length = 5)
    (rest : List Bool) :
    digitsOfBits (bits ++ rest) = BitVec.ofNat 5 (ofBits bits) :: digitsOfBits rest := by
  match bits, five with
  | [_, _, _, _, _], _ => rfl

private theorem bytesOfBits_append
    {bits : List Bool}
    (eight : bits.length = 8)
    (rest : List Bool) :
    bytesOfBits (bits ++ rest) = UInt8.ofNat (ofBits bits) :: bytesOfBits rest := by
  match bits, eight with
  | [_, _, _, _, _, _, _, _], _ => rfl

private theorem bytesOfBits_of_short
    {bits : List Bool}
    (short : bits.length < 8) :
    bytesOfBits bits = [] := by
  match bits, short with
  | [], _ | [_], _ | [_, _], _ | [_, _, _], _ | [_, _, _, _], _ | [_, _, _, _, _], _
  | [_, _, _, _, _, _], _ | [_, _, _, _, _, _, _], _ => rfl

/-- Fewer than eight bits behind whole bytes are dropped. -/
theorem bytesOfBits_bitsOfBytes_append
    (bytes : Bytes)
    {rest : List Bool}
    (short : rest.length < 8) :
    bytesOfBits (bitsOfBytes bytes ++ rest) = bytes := by
  induction bytes with
  | nil => exact bytesOfBits_of_short short
  | cons byte others inductionHypothesis =>
      have byteLt := byte.toNat_lt
      rw [bitsOfBytes, List.flatMap_cons, ← bitsOfBytes, List.append_assoc,
        bytesOfBits_append (length_bitsOf _ _), inductionHypothesis, ofBits_bitsOf,
        Nat.mod_eq_of_lt byteLt, UInt8.ofNat_toNat]

private theorem digitsOfBits_bitsOfDigits (digits : List Digit) :
    digitsOfBits (bitsOfDigits digits) = digits := by
  induction digits with
  | nil => rfl
  | cons digit others inductionHypothesis =>
      have digitLt := digit.isLt
      rw [bitsOfDigits, List.flatMap_cons, ← bitsOfDigits,
        digitsOfBits_append (length_bitsOf _ _), inductionHypothesis, ofBits_bitsOf,
        Nat.mod_eq_of_lt digitLt, BitVec.ofNat_toNat, BitVec.setWidth_eq]

/-- What is dropped is less than a byte. -/
theorem exists_bits_eq_append (bits : List Bool) :
    ∃ rest, bits = bitsOfBytes (bytesOfBits bits) ++ rest ∧ rest.length < 8 := by
  by_cases short : bits.length < 8
  · exact ⟨bits, by rw [bytesOfBits_of_short short]; rfl, short⟩
  · have eight : (bits.take 8).length = 8 := by
      rw [List.length_take]
      omega
    obtain ⟨rest, others, restShort⟩ := exists_bits_eq_append (bits.drop 8)
    refine ⟨rest, ?_, restShort⟩
    have cut : bytesOfBits bits = _ :=
      (congrArg bytesOfBits (List.take_append_drop 8 bits).symm).trans (bytesOfBits_append eight _)
    rw [cut, bitsOfBytes, List.flatMap_cons, ← bitsOfBytes, bitsOf_toNat_byte eight,
      List.append_assoc, ← others, List.take_append_drop]
termination_by bits.length
decreasing_by
  rw [List.length_drop]
  omega

private theorem digitsOfBits_of_short
    {bits : List Bool}
    (nonempty : bits ≠ [])
    (short : bits.length < 5) :
    digitsOfBits bits
      = [BitVec.ofNat 5 (ofBits (bits ++ List.replicate (5 - bits.length) false))] := by
  match bits, nonempty, short with
  | [_], _, _ | [_, _], _, _ | [_, _, _], _, _ | [_, _, _, _], _, _ => rfl

/-- The last digit is filled up with zero bits. -/
theorem exists_bitsOfDigits_eq_append (bits : List Bool) :
    ∃ fill < 5, bitsOfDigits (digitsOfBits bits) = bits ++ List.replicate fill false := by
  by_cases empty : bits = []
  · exact ⟨0, by decide, by rw [empty]; rfl⟩
  by_cases short : bits.length < 5
  · refine ⟨5 - bits.length, ?_, ?_⟩
    · have nonempty := List.length_pos_iff.mpr empty
      omega
    · have five : (bits ++ List.replicate (5 - bits.length) false).length = 5 := by
        rw [List.length_append, List.length_replicate]
        omega
      rw [digitsOfBits_of_short empty short, bitsOfDigits, List.flatMap_singleton,
        bitsOf_toNat_digit five]
  · have five : (bits.take 5).length = 5 := by
      rw [List.length_take]
      omega
    obtain ⟨fill, few, others⟩ := exists_bitsOfDigits_eq_append (bits.drop 5)
    refine ⟨fill, few, ?_⟩
    have cut : digitsOfBits bits = _ :=
      (congrArg digitsOfBits (List.take_append_drop 5 bits).symm).trans (digitsOfBits_append five _)
    rw [cut, bitsOfDigits, List.flatMap_cons, ← bitsOfDigits, others, bitsOf_toNat_digit five,
      ← List.append_assoc, List.take_append_drop]
termination_by bits.length
decreasing_by
  rw [List.length_drop]
  omega

/-! ## Payloads and their digits -/

/-- The bits behind the last whole byte. -/
def leftover (digits : List Digit) : List Bool :=
  (bitsOfDigits digits).drop (8 * (bytesOfDigits digits).length)

/-- No digit too many, and no bit set behind the last byte. -/
def IsPadded (digits : List Digit) : Prop :=
  (leftover digits).length < 5 ∧ ∀ bit ∈ leftover digits, bit = false

instance (digits : List Digit) : Decidable (IsPadded digits) :=
  inferInstanceAs (Decidable (_ ∧ _))

private theorem bitsOfDigits_eq_append (digits : List Digit) :
    bitsOfDigits digits = bitsOfBytes (bytesOfDigits digits) ++ leftover digits := by
  obtain ⟨rest, parts, -⟩ := exists_bits_eq_append (bitsOfDigits digits)
  have whole : bitsOfDigits digits = bitsOfBytes (bytesOfDigits digits) ++ rest := parts
  have dropped : leftover digits = rest := by
    rw [leftover, whole, ← length_bitsOfBytes]
    exact List.drop_left
  rw [dropped]
  exact whole

theorem digits_eq_of_leftover_eq
    {first second : List Digit}
    (payload : bytesOfDigits first = bytesOfDigits second)
    (sameLeftover : leftover first = leftover second) :
    first = second := by
  rw [← digitsOfBits_bitsOfDigits first, bitsOfDigits_eq_append, payload, sameLeftover,
    ← bitsOfDigits_eq_append, digitsOfBits_bitsOfDigits]

/-- The digits of a payload are read as the payload. -/
theorem bytesOfDigits_digitsOfBytes (payload : Bytes) :
    bytesOfDigits (digitsOfBytes payload) = payload := by
  obtain ⟨fill, few, filled⟩ := exists_bitsOfDigits_eq_append (bitsOfBytes payload)
  have short : (List.replicate fill false).length < 8 := by
    rw [List.length_replicate]
    omega
  have read := bytesOfBits_bitsOfBytes_append payload short
  rw [← filled] at read
  exact read

/-- Digits are those of the payload that they are read as exactly if they are padded. -/
theorem digitsOfBytes_bytesOfDigits_iff (digits : List Digit) :
    digitsOfBytes (bytesOfDigits digits) = digits ↔ IsPadded digits := by
  have parts := bitsOfDigits_eq_append digits
  obtain ⟨fill, few, filled⟩ :=
    exists_bitsOfDigits_eq_append (bitsOfBytes (bytesOfDigits digits))
  have written : bitsOfDigits (digitsOfBytes (bytesOfDigits digits)) = _ := filled
  constructor
  · intro same
    rw [same, parts, List.append_cancel_left_eq] at written
    rw [IsPadded, written]
    exact ⟨by rwa [List.length_replicate], fun bit => List.eq_of_mem_replicate⟩
  · rintro ⟨short, zeros⟩
    have zeroBits := List.eq_replicate_of_mem zeros
    have sameFill : (leftover digits).length = fill := by
      have before := congrArg List.length parts
      have behind := congrArg List.length written
      rw [List.length_append, length_bitsOfDigits] at before
      rw [List.length_append, length_bitsOfDigits, List.length_replicate] at behind
      omega
    rw [← sameFill, ← zeroBits, ← parts] at written
    calc
      digitsOfBytes (bytesOfDigits digits)
          = digitsOfBits (bitsOfDigits (digitsOfBytes (bytesOfDigits digits))) :=
        (digitsOfBits_bitsOfDigits _).symm
      _ = digitsOfBits (bitsOfDigits digits) := by rw [written]
      _ = digits := digitsOfBits_bitsOfDigits digits

end ChainTx.Bech32
