import ChainTx.Cosmos.AddressCodec
import ChainTx.Proofs.Bech32.Spelling
import ChainTx.Proofs.Checks

/-!
Contract: which texts the checks of a codec accept.

Owns:
- the accepted texts: those that spell digits of either variant with 1 to 255 whole bytes in them;
- which of them are the Bech32 text of their payload, and when two of them name one payload;
- that the Bech32 texts of payloads are accepted under their own human-readable part, and under no
  other.

Does not own: which checks a transaction makes of its addresses.

An accepted text need not be an address: the reader takes the checksum constant of Bech32m too, and
it drops whatever stands behind the last whole byte.
-/

set_option autoImplicit false

namespace ChainTx.Cosmos.AddressCodec

open Bech32

/-! ## The checks of a codec -/

/-- A check of a codec that was made, with the human-readable part that it was made for. -/
inductive IsCheck : String → (String → String → Except TxError Unit) → Prop where
  | account {accountHrp validatorHrp : String} {codec : AddressCodec}
      (made : make accountHrp validatorHrp = .ok codec) :
      IsCheck accountHrp codec.checkAccount
  | validator {accountHrp validatorHrp : String} {codec : AddressCodec}
      (made : make accountHrp validatorHrp = .ok codec) :
      IsCheck validatorHrp codec.checkValidator

private theorem checkHrp_eq_ok_iff
    {text : String}
    {passed : Unit} :
    checkHrp text = .ok passed ↔ IsHrp text := by
  rw [checkHrp, ← Bech32.checkHrp_eq_ok_iff]
  cases Bech32.checkHrp text <;> simp

private theorem make_eq_ok_iff
    {accountHrp validatorHrp : String}
    {codec : AddressCodec} :
    make accountHrp validatorHrp = .ok codec
      ↔ IsHrp accountHrp ∧ IsHrp validatorHrp ∧ ⟨accountHrp, validatorHrp⟩ = codec := by
  simp only [make, bind_eq_ok_iff, checkHrp_eq_ok_iff, Except.ok.injEq, exists_and_left,
    exists_const]

private theorem IsCheck.isHrp_and_eq
    {hrp : String}
    {found : String → String → Except TxError Unit}
    (isCheck : IsCheck hrp found) :
    IsHrp hrp ∧ found = check hrp := by
  cases isCheck with
  | account made =>
      obtain ⟨isHrp, -, rfl⟩ := make_eq_ok_iff.mp made
      exact ⟨isHrp, rfl⟩
  | validator made =>
      obtain ⟨-, isHrp, rfl⟩ := make_eq_ok_iff.mp made
      exact ⟨isHrp, rfl⟩

/-! ## Accepted texts -/

/-- A text that spells digits with a payload in them that is neither empty nor too long. -/
structure Denotes (hrp address : String) (variant : Variant) (digits : List Digit)
    (payload : Bytes) : Prop where
  spells : Spells address hrp variant digits
  holds : bytesOfDigits digits = payload
  nonempty : 1 ≤ payload.length
  short : payload.length ≤ 255

private theorem Denotes.decode?_eq
    {hrp address : String}
    {variant : Variant}
    {digits : List Digit}
    {payload : Bytes}
    (denotes : Denotes hrp address variant digits payload) :
    decode? address = some ⟨hrp, payload⟩ :=
  decode?_eq_some_iff.mpr ⟨variant, digits, denotes.spells, denotes.holds⟩

private theorem accepts_eq_true_iff
    {hrp address : String} :
    accepts hrp address = true
      ↔ ∃ variant digits payload, Denotes hrp address variant digits payload := by
  have read : accepts hrp address = true
      ↔ ∃ payload, decode? address = some ⟨hrp, payload⟩
        ∧ 1 ≤ payload.length ∧ payload.length ≤ 255 := by
    rw [accepts]
    cases decode? address with
    | none => simp
    | some decoded =>
        simp only [Bool.and_eq_true, beq_iff_eq, decide_eq_true_eq, Option.some.injEq]
        constructor
        · rintro ⟨⟨rfl, nonempty⟩, short⟩
          exact ⟨decoded.payload, rfl, nonempty, short⟩
        · rintro ⟨payload, rfl, nonempty, short⟩
          exact ⟨⟨rfl, nonempty⟩, short⟩
  rw [read]
  constructor
  · rintro ⟨payload, decoded, nonempty, short⟩
    obtain ⟨variant, digits, spells, holds⟩ := decode?_eq_some_iff.mp decoded
    exact ⟨variant, digits, payload, spells, holds, nonempty, short⟩
  · rintro ⟨variant, digits, payload, denotes⟩
    exact ⟨payload, denotes.decode?_eq, denotes.nonempty, denotes.short⟩

private theorem check_eq_ok_iff
    {hrp field address : String}
    {passed : Unit} :
    check hrp field address = .ok passed
      ↔ ∃ variant digits payload, Denotes hrp address variant digits payload := by
  rw [← accepts_eq_true_iff, check]
  cases accepts hrp address <;> simp

/-! ## Addresses -/

/-- The Bech32 text of 1 to 255 bytes under a human-readable part, written in either letter case. -/
def IsAddress (hrp address : String) : Prop :=
  ∃ payload : Bytes,
    1 ≤ payload.length ∧ payload.length ≤ 255
      ∧ (address = encode hrp.toLower payload ∨ address = (encode hrp.toLower payload).toUpper)

private theorem encode_eq_spell (hrp : String) (payload : Bytes) :
    encode hrp payload = spell .bech32 hrp (digitsOfBytes payload) :=
  rfl

/-- An accepted text is the Bech32 text of a payload if it has the checksum of Bech32 and its digits
are padded. -/
theorem Denotes.isAddress_iff
    {hrp address : String}
    {variant : Variant}
    {digits : List Digit}
    {payload : Bytes}
    (denotes : Denotes hrp address variant digits payload) :
    IsAddress hrp address ↔ variant = .bech32 ∧ IsPadded digits := by
  have lowerHrp := map_toLower_toLower hrp
  constructor
  · rintro ⟨written, -, -, isText⟩
    have sameText : address.toList.map Char.toLower
        = (encode hrp.toLower written).toList.map Char.toLower := by
      rcases isText with rfl | rfl
      · rfl
      · rw [String.toUpper, String.toList_map, map_toLower_map_toUpper]
    obtain ⟨isVariant, isDigits⟩ :=
      spell_inj_of_sameLower lowerHrp.symm (denotes.spells.sameLower.symm.trans sameText)
    rw [isDigits, ← digitsOfBytes_bytesOfDigits_iff, bytesOfDigits_digitsOfBytes]
    exact ⟨isVariant, rfl⟩
  · rintro ⟨rfl, padded⟩
    have digitsEq := (digitsOfBytes_bytesOfDigits_iff digits).mpr padded
    rw [denotes.holds] at digitsEq
    refine ⟨payload, denotes.nonempty, denotes.short, ?_⟩
    rw [encode_eq_spell, digitsEq]
    rcases denotes.spells.oneCase with ⟨noUpper, isText⟩ | ⟨-, isText⟩
    · rw [toLower_eq_of_hasNoUpper noUpper]
      exact .inl isText
    · rw [toUpper_eq_of_sameLower (spell_sameLower lowerHrp _ _)]
      exact .inr isText

/-- Of two texts in lower case that hold one payload, both are the same if they have the same checksum
and the same bits behind the last byte. -/
theorem Denotes.eq_iff
    {hrp address otherAddress : String}
    {variant otherVariant : Variant}
    {digits otherDigits : List Digit}
    {payload : Bytes}
    (one : Denotes hrp address variant digits payload)
    (other : Denotes hrp otherAddress otherVariant otherDigits payload)
    (lower : HasNoUpper address.toList)
    (otherLower : HasNoUpper otherAddress.toList) :
    address = otherAddress
      ↔ variant = otherVariant ∧ leftover digits = leftover otherDigits := by
  constructor
  · rintro rfl
    obtain ⟨-, sameVariant, rfl⟩ := one.spells.unique other.spells
    exact ⟨sameVariant, rfl⟩
  · rintro ⟨rfl, sameLeftover⟩
    have sameDigits := digits_eq_of_leftover_eq (one.holds.trans other.holds.symm) sameLeftover
    have sameText := one.spells.sameLower.trans (sameDigits ▸ other.spells.sameLower.symm)
    rw [map_toLower_of_hasNoUpper lower, map_toLower_of_hasNoUpper otherLower] at sameText
    exact String.toList_inj.mp sameText

/-- A check accepts the texts that hold a payload of 1 to 255 bytes. Such a text is an address exactly
if it has the checksum of Bech32, no digit too many and no bit set behind the last byte. Two texts in
lower case that hold one payload are the same exactly if they have the same checksum and the same
bits behind the last byte. -/
theorem accepted_isAddress_iff
    {hrp : String}
    {found : String → String → Except TxError Unit}
    (isCheck : IsCheck hrp found)
    (field : String) :
    (∀ address,
        found field address = .ok ()
          ↔ ∃ variant digits payload, Denotes hrp address variant digits payload)
      ∧ (∀ address variant digits payload,
        Denotes hrp address variant digits payload →
          (IsAddress hrp address ↔ variant = .bech32 ∧ IsPadded digits))
      ∧ ∀ payload address variant digits otherAddress otherVariant otherDigits,
        Denotes hrp address variant digits payload →
        Denotes hrp otherAddress otherVariant otherDigits payload →
        HasNoUpper address.toList →
        HasNoUpper otherAddress.toList →
          (address = otherAddress
            ↔ variant = otherVariant ∧ leftover digits = leftover otherDigits) := by
  obtain ⟨-, rfl⟩ := isCheck.isHrp_and_eq
  exact ⟨fun _ => check_eq_ok_iff, fun _ _ _ _ denotes => denotes.isAddress_iff,
    fun _ _ _ _ _ _ _ one other lower otherLower => one.eq_iff other lower otherLower⟩

/-! ### A payload written in four ways -/

private theorem make_cosmos : make "cosmos" "cosmosvaloper" = .ok ⟨"cosmos", "cosmosvaloper"⟩ := by
  rfl

/-- The Bech32 text of one zero byte. -/
def tidyAddress : String :=
  "cosmos1qqxuevtt"

/-- Texts of the same byte that are no Bech32 text: with the checksum of Bech32m, with a bit set behind
the byte, and with a digit too many. -/
def looseAddresses : List (String × Variant × List Digit) :=
  [("cosmos1qqnqfqwf", .bech32m, [0, 0]), ("cosmos1qpm2deke", .bech32, [0, 1]),
    ("cosmos1qqqqk0wkk", .bech32, [0, 0, 0])]

private theorem denotes_of_spelled
    {address : String}
    {variant : Variant}
    {digits : List Digit}
    (spelled : address = spell variant "cosmos" digits)
    (holds : bytesOfDigits digits = [0]) :
    Denotes "cosmos" address variant digits [0] where
  spells := ⟨by decide, .inl ⟨by decide, spelled⟩⟩
  holds := holds
  nonempty := by decide
  short := by decide

private theorem denotes_tidyAddress : Denotes "cosmos" tidyAddress .bech32 [0, 0] [0] :=
  denotes_of_spelled (by cbv) (by decide)

private theorem denotes_looseAddresses :
    ∀ entry ∈ looseAddresses, Denotes "cosmos" entry.1 entry.2.1 entry.2.2 [0] := by
  simp only [looseAddresses, List.forall_mem_cons]
  exact ⟨denotes_of_spelled (by cbv) (by decide), denotes_of_spelled (by cbv) (by decide),
    denotes_of_spelled (by cbv) (by decide), List.forall_mem_nil _⟩

theorem accepted_isAddress_tidyAddress :
    IsCheck "cosmos" (checkAccount ⟨"cosmos", "cosmosvaloper"⟩)
      ∧ checkAccount ⟨"cosmos", "cosmosvaloper"⟩ "toAddress" tidyAddress = .ok ()
      ∧ IsAddress "cosmos" tidyAddress
      ∧ ∀ entry ∈ looseAddresses,
        checkAccount ⟨"cosmos", "cosmosvaloper"⟩ "toAddress" entry.1 = .ok () := by
  have isCheck : IsCheck "cosmos" (checkAccount ⟨"cosmos", "cosmosvaloper"⟩) := .account make_cosmos
  have laws := accepted_isAddress_iff isCheck "toAddress"
  refine ⟨isCheck, (laws.1 _).mpr ⟨_, _, _, denotes_tidyAddress⟩,
    (laws.2.1 _ _ _ _ denotes_tidyAddress).mpr ⟨rfl, by decide⟩, fun entry isIn =>
      (laws.1 _).mpr ⟨_, _, _, denotes_looseAddresses entry isIn⟩⟩

/-- Three texts that are no address of the chain are accepted as the address that they share a payload
with. -/
theorem accepted_of_looseAddresses :
    ∃ codec,
      make "cosmos" "cosmosvaloper" = .ok codec
        ∧ codec.checkAccount "toAddress" tidyAddress = .ok ()
        ∧ looseAddresses.length = 3
        ∧ ∀ entry ∈ looseAddresses,
          codec.checkAccount "toAddress" entry.1 = .ok ()
            ∧ ¬ IsAddress "cosmos" entry.1
            ∧ HasNoUpper entry.1.toList
            ∧ entry.1 ≠ tidyAddress
            ∧ (decode? entry.1).map Decoded.payload = (decode? tidyAddress).map Decoded.payload := by
  have unpadded : ∀ entry ∈ looseAddresses,
      ¬ (entry.2.1 = Variant.bech32 ∧ IsPadded entry.2.2) := by
    decide
  have written : ∀ entry ∈ looseAddresses,
      HasNoUpper entry.1.toList ∧ entry.1 ≠ tidyAddress := by
    decide
  refine ⟨_, make_cosmos, check_eq_ok_iff.mpr ⟨_, _, _, denotes_tidyAddress⟩, rfl,
    fun entry isIn => ?_⟩
  have denotes := denotes_looseAddresses entry isIn
  refine ⟨check_eq_ok_iff.mpr ⟨_, _, _, denotes⟩,
    fun isAddress => unpadded entry isIn (denotes.isAddress_iff.mp isAddress),
    (written entry isIn).1, (written entry isIn).2, ?_⟩
  rw [denotes.decode?_eq, denotes_tidyAddress.decode?_eq]

/-! ## Texts of payloads -/

private theorem denotes_encode
    {hrp : String}
    {payload : Bytes}
    (isHrp : IsHrp hrp)
    (lower : HasNoUpper hrp.toList)
    (nonempty : 1 ≤ payload.length)
    (short : payload.length ≤ 255) :
    Denotes hrp (encode hrp payload) .bech32 (digitsOfBytes payload) payload where
  spells := ⟨isHrp, .inl ⟨lower, rfl⟩⟩
  holds := bytesOfDigits_digitsOfBytes payload
  nonempty := nonempty
  short := short

/-- A text is an address under one human-readable part only. -/
theorem check_of_denotes_other
    {hrp otherHrp field address : String}
    {variant : Variant}
    {digits : List Digit}
    {payload : Bytes}
    (denotes : Denotes hrp address variant digits payload)
    (distinct : otherHrp ≠ hrp) :
    check otherHrp field address = .error (.validation field (.bech32Address address otherHrp)) := by
  have refused : accepts otherHrp address ≠ true := by
    intro accepted
    obtain ⟨_, _, _, other⟩ := accepts_eq_true_iff.mp accepted
    exact distinct (other.spells.unique denotes.spells).1
  rw [check, if_neg refused]

/-- Under a human-readable part without upper-case letters the Bech32 text of every payload of 1 to 255
bytes is accepted; and every check for another part, of whichever codec, refuses it. -/
theorem encode_accepted_only_by_own_hrp
    {hrp : String}
    {found : String → String → Except TxError Unit}
    (isCheck : IsCheck hrp found)
    (lower : HasNoUpper hrp.toList)
    {payload : Bytes}
    (nonempty : 1 ≤ payload.length)
    (short : payload.length ≤ 255)
    (field : String) :
    found field (encode hrp payload) = .ok ()
      ∧ ∀ otherHrp otherFound,
        IsCheck otherHrp otherFound →
        otherHrp ≠ hrp →
          otherFound field (encode hrp payload)
            = .error (.validation field (.bech32Address (encode hrp payload) otherHrp)) := by
  obtain ⟨isHrp, rfl⟩ := isCheck.isHrp_and_eq
  have denotes := denotes_encode isHrp lower nonempty short
  refine ⟨check_eq_ok_iff.mpr ⟨_, _, _, denotes⟩, fun otherHrp otherFound otherCheck distinct => ?_⟩
  obtain ⟨-, rfl⟩ := otherCheck.isHrp_and_eq
  exact check_of_denotes_other denotes distinct

example :
    encode "abcdef"
        [0x00, 0x44, 0x32, 0x14, 0xC7, 0x42, 0x54, 0xB6, 0x35, 0xCF, 0x84, 0x65, 0x3A, 0x56, 0xD7,
          0xC6, 0x75, 0xBE, 0x77, 0xDF]
      = "abcdef1qpzry9x8gf2tvdw0s3jn54khce6mua7lmqqqxw" := by
  cbv

/-- The human-readable part of accounts has a separator in it here, and that of validators ends in what
stands behind it. -/
theorem encode_accepted_only_by_inner_separator :
    IsCheck "a1b" (checkAccount ⟨"a1b", "b"⟩)
      ∧ checkAccount ⟨"a1b", "b"⟩ "sender" (encode "a1b" [0]) = .ok ()
      ∧ checkValidator ⟨"a1b", "b"⟩ "sender" (encode "a1b" [0])
        = .error (.validation "sender" (.bech32Address (encode "a1b" [0]) "b")) := by
  have made : make "a1b" "b" = .ok ⟨"a1b", "b"⟩ := rfl
  have lower : HasNoUpper "a1b".toList := by decide
  have nonempty : 1 ≤ ([0] : Bytes).length := by decide
  have short : ([0] : Bytes).length ≤ 255 := by decide
  have laws := encode_accepted_only_by_own_hrp (.account made) lower nonempty short "sender"
  exact ⟨.account made, laws.1, laws.2 "b" _ (.validator made) (by decide)⟩

end ChainTx.Cosmos.AddressCodec
