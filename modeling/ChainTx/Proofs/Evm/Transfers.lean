import ChainTx.Evm.Transfer
import ChainTx.Proofs.Bytes.Hexadecimal
import ChainTx.Proofs.Evm.Strictness
import ChainTx.Proofs.Text.Decimal

/-!
Contract: which payloads are native transfers.

Owns:
- the texts of addresses, of amounts of wei and of call data, each with the value that it tells;
- the payloads that tell a transfer, and that a transfer is read from these and from no others;
- that only three members of a payload count;
- a payload for every transfer, from which the transfer is read back.

Does not own: what is wrong with the other payloads.
-/

set_option autoImplicit false

namespace ChainTx.Evm

/-! ## Texts with a mark -/

/-- The characters are `0x` and the digits of bytes, in either letter case. -/
def SpellsMarked (chars : List Char) (bytes : Bytes) : Prop :=
  ∃ digits, chars = '0' :: 'x' :: digits ∧ Hex.Spells digits bytes

private theorem afterMark?_eq_some_iff
    {chars digits : List Char} :
    afterMark? chars = some digits ↔ chars = '0' :: 'x' :: digits := by
  unfold afterMark?
  split
  · simp [eq_comm]
  · rename_i unmarked
    constructor
    · nofun
    · intro marked
      exact absurd marked (unmarked digits)

/-- Forty digits spell the 20 bytes of an address. -/
theorem addressOfDigits?_eq_some_iff
    {digits : List Char}
    {address : Address} :
    addressOfDigits? digits = some address ↔ Hex.Spells digits address.bytes := by
  have ofSpelled {bytes : Bytes} (spells : Hex.Spells digits bytes) (wide : bytes.length = 20) :
      addressOfDigits? digits = some (Address.ofBytes bytes) := by
    have areDigits : digits.all Hex.isDigit = true :=
      List.all_eq_true.mpr fun char isIn => Hex.isDigit_iff.mpr (spells.areDigits char isIn)
    rw [addressOfDigits?, if_pos ⟨by rw [spells.length_eq, wide], areDigits⟩, spells.foldl_eq 0]
    rfl
  constructor
  · intro read
    obtain ⟨long, areDigits⟩ : digits.length = 40 ∧ digits.all Hex.isDigit = true := by
      unfold addressOfDigits? at read
      split at read
      · assumption
      · cases read
    obtain ⟨bytes, spells⟩ := Hex.exists_spells_iff.mpr
      ⟨by rw [long], fun char isIn => Hex.isDigit_iff.mp (List.all_eq_true.mp areDigits char isIn)⟩
    have wide : bytes.length = 20 := by
      have count := spells.length_eq
      omega
    rw [ofSpelled spells wide, Option.some.injEq] at read
    rwa [← read, Address.bytes_ofBytes wide]
  · intro spells
    rw [ofSpelled spells (Bytes.length_ofNatBE 20 _), Address.ofBytes_bytes]

variable {field raw : String}

private theorem parseAddress_eq_ok_iff {address : Address} :
    parseAddress field raw = .ok address ↔ SpellsMarked raw.toList address.bytes := by
  have read : parseAddress field raw = .ok address
      ↔ (afterMark? raw.toList).bind addressOfDigits? = some address := by
    unfold parseAddress
    cases (afterMark? raw.toList).bind addressOfDigits? <;> simp
  rw [read, Option.bind_eq_some_iff]
  simp only [afterMark?_eq_some_iff, addressOfDigits?_eq_some_iff, SpellsMarked]

private theorem parseWei_eq_ok_iff {amount : BitVec 256} :
    parseWei field raw = .ok amount
      ↔ Decimal.IsRun raw.toList ∧ Decimal.value raw.toList = amount.toNat := by
  unfold parseWei
  cases read : Decimal.read? raw.toList with
  | none =>
      have noRun : ¬ Decimal.IsRun raw.toList := by
        intro isRun
        rw [Decimal.read?_eq_some_iff.mpr ⟨isRun, rfl⟩] at read
        cases read
      simp [noRun]
  | some number =>
      obtain ⟨isRun, rfl⟩ := Decimal.read?_eq_some_iff.mp read
      simp only [isRun, true_and]
      split
      · rename_i small
        rw [Except.ok.injEq]
        constructor
        · rintro rfl
          rw [BitVec.toNat_ofNat, Nat.mod_eq_of_lt small]
        · intro same
          rw [same, BitVec.ofNat_toNat, BitVec.setWidth_eq]
      · rename_i large
        constructor
        · nofun
        · intro same
          exact absurd (same ▸ amount.isLt) large

private theorem parseData_eq_ok_iff {data : Bytes} :
    parseData field raw = .ok data ↔ SpellsMarked raw.toList data := by
  simp only [parseData, SpellsMarked, ← afterMark?_eq_some_iff]
  cases afterMark? raw.toList with
  | none => simp
  | some digits =>
      simp only [Option.some.injEq, exists_eq_left']
      have read := @Hex.decode_eq_ok_iff (String.ofList digits) data
      rw [String.toList_ofList] at read
      rw [← read]
      cases Hex.decode (String.ofList digits) <;> simp

end ChainTx.Evm

/-! ## Members of payloads -/

namespace ChainTx.Payload

variable {payload : Payload} {field raw : String}

private theorem requiredText_eq_ok_iff :
    payload.requiredText field = .ok raw
      ↔ payload.members.lookup field = some (.string raw) ∧ Blank.isBlankText raw = false := by
  unfold requiredText member?
  cases payload.members.lookup field with
  | none => simp
  | some found =>
      cases found with
      | string text =>
          simp only [Option.some.injEq, Json.string.injEq]
          split
          · rename_i blank
            constructor
            · nofun
            · rintro ⟨rfl, filled⟩
              rw [blank] at filled
              cases filled
          · rename_i filled
            rw [Except.ok.injEq]
            constructor
            · rintro rfl
              exact ⟨rfl, Bool.eq_false_iff.mpr filled⟩
            · exact fun found => found.1
      | _ => simp

/-- There is no text in a member that is missing, null or empty. -/
theorem optionalText_eq_ok_none_iff :
    payload.optionalText field = .ok none
      ↔ payload.members.lookup field = none
        ∨ payload.members.lookup field = some .null
        ∨ payload.members.lookup field = some (.string "") := by
  unfold optionalText member?
  cases payload.members.lookup field with
  | none => simp
  | some found =>
      cases found with
      | string text =>
          simp only [String.isEmpty_iff]
          split <;> simp_all
      | _ => simp

private theorem optionalText_eq_ok_some_iff :
    payload.optionalText field = .ok (some raw)
      ↔ payload.members.lookup field = some (.string raw) ∧ raw ≠ "" := by
  unfold optionalText member?
  cases payload.members.lookup field with
  | none => simp
  | some found =>
      cases found with
      | string text =>
          simp only [String.isEmpty_iff]
          split <;> grind
      | _ => simp

/-- A payload tells the same as the members that are asked for. -/
theorem member?_filter
    {names : List String}
    (asked : field ∈ names)
    (members : List (String × Json)) :
    (Payload.mk (members.filter fun member => names.contains member.1)).member? field
      = (Payload.mk members).member? field := by
  have looked : (members.filter fun member => names.contains member.1).lookup field
      = members.lookup field := by
    induction members with
    | nil => rfl
    | cons member rest inductionHypothesis =>
        obtain ⟨name, value⟩ := member
        by_cases kept : names.contains name = true
        · rw [List.filter_cons, if_pos kept, List.lookup_cons, List.lookup_cons, inductionHypothesis]
        · have other : (field == name) = false := by
            rw [beq_eq_false_iff_ne]
            rintro rfl
            exact kept (List.contains_iff_mem.mpr asked)
          rw [List.filter_cons, if_neg kept, List.lookup_cons, other, inductionHypothesis]
  unfold member?
  rw [looked]

end ChainTx.Payload

/-! ## Payloads of transfers -/

namespace ChainTx.Evm.Transfer

/-- The payload is an object with the address of the recipient, the amount, and the call data, which
may be missing, null or empty where there are none. -/
structure IsTold (json : Json) (transfer : Transfer) : Prop where
  isObject : json.isObject = true
  recipient : ∃ raw,
    json.get? "toAddress" = some (.string raw)
      ∧ raw.toList.length = 42
      ∧ SpellsMarked raw.toList transfer.recipient.bytes
  value : ∃ raw,
    json.get? "amount" = some (.string raw)
      ∧ Decimal.IsRun raw.toList
      ∧ Decimal.value raw.toList < 2 ^ 256
      ∧ Decimal.value raw.toList = transfer.value.toNat
  data :
    (json.get? "data" = none ∨ json.get? "data" = some .null
        ∨ json.get? "data" = some (.string ""))
      ∧ transfer.data = []
    ∨ ∃ raw, json.get? "data" = some (.string raw) ∧ SpellsMarked raw.toList transfer.data

/-- A text with a character that is not blank. -/
theorem isBlankText_of_mem
    {raw : String}
    {char : Char}
    (isIn : char ∈ raw.toList)
    (notBlank : isBlank char = false) :
    Blank.isBlankText raw = false := by
  rw [Blank.isBlankText, List.all_eq_false]
  exact ⟨char, isIn, by rw [notBlank]; decide⟩

private theorem dataOf_eq_ok_iff
    {payload : Payload}
    {data : Bytes} :
    dataOf payload = .ok data
      ↔ (payload.members.lookup "data" = none ∨ payload.members.lookup "data" = some .null
            ∨ payload.members.lookup "data" = some (.string ""))
          ∧ data = []
        ∨ ∃ raw, payload.members.lookup "data" = some (.string raw)
          ∧ SpellsMarked raw.toList data := by
  have marked {raw : String} (spells : SpellsMarked raw.toList data) : raw ≠ "" := by
    rintro rfl
    obtain ⟨digits, chars, -⟩ := spells
    cases chars
  rw [dataOf, bind_eq_ok_iff, ← Payload.optionalText_eq_ok_none_iff]
  constructor
  · rintro ⟨none | raw, found, read⟩
    · cases read
      exact .inl ⟨found, rfl⟩
    · exact .inr ⟨raw, (Payload.optionalText_eq_ok_some_iff.mp found).1, parseData_eq_ok_iff.mp read⟩
  · rintro (⟨missing, rfl⟩ | ⟨raw, found, spells⟩)
    · exact ⟨none, missing, rfl⟩
    · exact ⟨some raw, Payload.optionalText_eq_ok_some_iff.mpr ⟨found, marked spells⟩,
        parseData_eq_ok_iff.mpr spells⟩

private theorem ofPayload_eq_ok_iff
    {json : Json}
    {transfer : Transfer} :
    ofPayload json = .ok transfer ↔ IsTold json transfer := by
  cases json with
  | object members =>
      simp only [ofPayload, bind_eq_ok_iff, Payload.ofJson, Except.ok.injEq, exists_eq_left',
        Payload.requiredText_eq_ok_iff, parseAddress_eq_ok_iff, parseWei_eq_ok_iff,
        dataOf_eq_ok_iff]
      constructor
      · rintro ⟨rawAddress, ⟨addressFound, -⟩, recipient, spells, rawAmount, ⟨amountFound, -⟩, value,
          ⟨isRun, same⟩, data, dataFound, rfl⟩
        refine ⟨rfl, ⟨rawAddress, addressFound, ?_, spells⟩, ⟨rawAmount, amountFound, isRun, ?_, same⟩,
          dataFound⟩
        · obtain ⟨digits, marked, spelled⟩ := spells
          rw [marked, List.length_cons, List.length_cons, spelled.length_eq, Address.length_bytes]
        · rw [same]
          exact value.isLt
      · rintro ⟨-, ⟨rawAddress, addressFound, -, spells⟩, ⟨rawAmount, amountFound, isRun, -, same⟩,
          dataFound⟩
        have addressFilled : Blank.isBlankText rawAddress = false := by
          obtain ⟨digits, marked, -⟩ := spells
          exact isBlankText_of_mem (marked ▸ List.mem_cons_self) (by decide)
        have amountFilled : Blank.isBlankText rawAmount = false := by
          obtain ⟨char, rest, digits⟩ := List.exists_cons_of_ne_nil isRun.1
          have isIn : char ∈ rawAmount.toList := digits ▸ List.mem_cons_self
          exact isBlankText_of_mem isIn (Decimal.not_isBlank_of_isAsciiDigit (isRun.2 char isIn))
        exact ⟨rawAddress, ⟨addressFound, addressFilled⟩, _, spells, rawAmount,
          ⟨amountFound, amountFilled⟩, _, ⟨isRun, same⟩, _, dataFound, rfl⟩
  | _ =>
      constructor
      · nofun
      · intro told
        cases told.isObject

/-- Every other member of a payload can be left out. -/
theorem ofPayload_filter (members : List (String × Json)) :
    ofPayload (.object (members.filter fun member =>
        ["toAddress", "amount", "data"].contains member.1))
      = ofPayload (.object members) := by
  simp only [ofPayload, Payload.ofJson, dataOf, Payload.requiredText, Payload.optionalText, bind,
    Except.bind,
    Payload.member?_filter (show "toAddress" ∈ ["toAddress", "amount", "data"] by decide),
    Payload.member?_filter (show "amount" ∈ ["toAddress", "amount", "data"] by decide),
    Payload.member?_filter (show "data" ∈ ["toAddress", "amount", "data"] by decide)]

/-- The members of a payload that tell a transfer: hexadecimal digits behind a mark, and the amount
with as many zeros in front as one likes. -/
def members (transfer : Transfer) (zeros : Nat) : List (String × Json) :=
  [("toAddress", .string ("0x" ++ Hex.encode transfer.recipient.bytes)),
    ("amount",
      .string (String.ofList (List.replicate zeros '0' ++ Decimal.digits transfer.value.toNat))),
    ("data", .string ("0x" ++ Hex.encode transfer.data))]

private theorem spellsMarked_encode (bytes : Bytes) :
    SpellsMarked ("0x" ++ Hex.encode bytes).toList bytes := by
  refine ⟨Hex.encodeChars bytes, ?_, Hex.spells_encodeChars bytes⟩
  rw [Hex.encode, String.toList_append, String.toList_ofList (l := Hex.encodeChars bytes)]
  rfl

/-- The members tell their transfer, whatever stands behind them. -/
theorem isTold_members
    (transfer : Transfer)
    (zeros : Nat)
    (others : List (String × Json)) :
    IsTold (.object (transfer.members zeros ++ others)) transfer := by
  have address := spellsMarked_encode transfer.recipient.bytes
  have long : ("0x" ++ Hex.encode transfer.recipient.bytes).toList.length = 42 := by
    obtain ⟨digits, marked, spells⟩ := address
    rw [marked, List.length_cons, List.length_cons, spells.length_eq, Address.length_bytes]
  have ⟨isRun, same⟩ := Decimal.isRun_zeros_append_digits zeros transfer.value.toNat
  refine ⟨rfl, ⟨_, rfl, long, address⟩, ⟨_, rfl, ?_⟩, .inr ⟨_, rfl, spellsMarked_encode transfer.data⟩⟩
  rw [String.toList_ofList]
  exact ⟨isRun, by rw [same]; exact transfer.value.isLt, same⟩

/-- A transfer is read exactly from the payloads that tell it, and it depends on three members only.
Every transfer is told by a payload, with any count of zeros in front of its amount. -/
theorem parse_exactly_told :
    (∀ json transfer, parse .nativeTransfer json = .ok transfer ↔ IsTold json transfer)
      ∧ (∀ members : List (String × Json),
        parse .nativeTransfer (.object (members.filter fun member =>
            ["toAddress", "amount", "data"].contains member.1))
          = parse .nativeTransfer (.object members))
      ∧ ∀ (transfer : Transfer) (zeros : Nat) (others : List (String × Json)),
        parse .nativeTransfer (.object (transfer.members zeros ++ others)) = .ok transfer := by
  refine ⟨fun json transfer => ofPayload_eq_ok_iff, ofPayload_filter, ?_⟩
  intro transfer zeros others
  exact ofPayload_eq_ok_iff.mpr (transfer.isTold_members zeros others)

end ChainTx.Evm.Transfer
