import ChainTx.Cosmos.Account
import ChainTx.Proofs.Checks
import ChainTx.Proofs.Json.Nulls

/-!
Contract: what an account object tells, whatever wraps it and however its members are spelled.

Owns:
- members under two spellings, and the errors about numbers among them;
- objects that are no wrappers, chains of wrappers around them, and that such a chain is taken off
  whatever else its wrappers hold;
- the other spelling of members.

Does not own: nulls that stand before members of the other spelling.
-/

set_option autoImplicit false

namespace ChainTx.Cosmos.Account

open Json (present?)

variable {address snake camel : String} {account base inner outer value : Json} {count : Nat}

/-! ## Members -/

theorem member?_of_absent (absent : value.get? snake = none) :
    member? value snake camel = value.present? camel := by
  rw [member?, absent, Option.none_or]
  rfl

theorem member?_of_found (found : value.get? snake = some inner) :
    member? value snake camel = value.present? snake := by
  cases inner <;> simp only [member?, present?, found, Option.some_or]

private theorem member?_of_both_absent
    (first : value.get? snake = none)
    (second : value.get? camel = none) :
    member? value snake camel = none := by
  rw [member?_of_absent first]
  exact Json.present?_eq_none_iff.mpr (.inl second)

private theorem numberOf_of_member?_eq
    {other : Json}
    (same : member? other snake camel = member? value snake camel) :
    numberOf other snake camel = numberOf value snake camel := by
  rw [numberOf, numberOf, same]

/-- Of all causes, only a member that is not found is told as missing. -/
theorem numberOf_eq_missing_iff :
    numberOf value snake camel = .error (.transport (.accountField snake .missing))
      ↔ member? value snake camel = none := by
  rw [numberOf]
  cases member? value snake camel with
  | none => simp
  | some found =>
      cases found with
      | string text => cases parsed : Decimal.uint64? text.toList <;> simp [parsed]
      | integer number => cases parsed : (Json.integer number).uint64? <;> simp [parsed]
      | _ => simp

/-- Every error about a number names the member under its first spelling. -/
theorem numberOf_names_member (value : Json) (snake camel : String) :
    FailsOnly (fun error => ∃ cause, error = .transport (.accountField snake cause))
      (numberOf value snake camel) := by
  unfold numberOf
  simp only
  split
  · exact ⟨_, rfl⟩
  · split
    · trivial
    · exact ⟨_, rfl⟩
  · split
    · trivial
    · exact ⟨_, rfl⟩
  · exact ⟨_, rfl⟩
  · exact ⟨_, rfl⟩

/-- The account number is told as missing exactly where it is not found. -/
theorem ofJson_eq_missing_iff :
    ofJson address account = .error (.transport (.accountField "account_number" .missing))
      ↔ member? (unwrap wrapperLimit account) "account_number" "accountNumber" = none := by
  rw [← numberOf_eq_missing_iff, ofJson]
  cases number : numberOf (unwrap wrapperLimit account) "account_number" "accountNumber" with
  | error error => simp [bind, Except.bind]
  | ok accountNumber =>
      cases sequence : numberOf (unwrap wrapperLimit account) "sequence" "sequence" with
      | error error =>
          have names := numberOf_names_member (unwrap wrapperLimit account) "sequence" "sequence"
          rw [sequence] at names
          obtain ⟨cause, rfl⟩ := names
          simp [bind, Except.bind]
      | ok sequenceNumber => simp [bind, Except.bind]

theorem publicKey_of_ofJson
    {info : AccountInfo}
    (told : ofJson address account = .ok info) :
    info.publicKey
      = (member? (unwrap wrapperLimit account) "pub_key" "pubKey").bind keyBytes? := by
  rw [ofJson, bind_eq_ok_iff] at told
  obtain ⟨accountNumber, -, told⟩ := told
  rw [bind_eq_ok_iff] at told
  obtain ⟨sequence, -, told⟩ := told
  cases told
  rfl

/-! ## Wrappers -/

theorem unwrap_succ_of_wrapped?
    (found : wrapped? value = some inner)
    (isObject : inner.isObject = true)
    (count : Nat) :
    unwrap (count + 1) value = unwrap count inner := by
  rw [unwrap, found]
  exact if_pos isObject

theorem unwrap_succ_of_stops
    (stops : ∀ inner, wrapped? value = some inner → inner.isObject = false)
    (count : Nat) :
    unwrap (count + 1) value = value := by
  rw [unwrap]
  split
  · rename_i inner found
    rw [stops inner found]
    rfl
  · rfl

/-- A wrapper is taken off, or the object stays as it is. -/
theorem wrapped?_cases (value : Json) :
    (∃ inner, wrapped? value = some inner ∧ inner.isObject = true)
      ∨ ∀ inner, wrapped? value = some inner → inner.isObject = false := by
  by_cases wraps : ∃ inner, wrapped? value = some inner ∧ inner.isObject = true
  · exact .inl wraps
  · refine .inr fun inner found => ?_
    rw [← Bool.not_eq_true]
    exact fun isObject => wraps ⟨inner, found, isObject⟩

/-- The names under which a wrapper can hold what it wraps. -/
def wrapperNames : List String :=
  ["base_account", "baseAccount", "base_vesting_account", "baseVestingAccount"]

/-- An object that is no wrapper. -/
structure IsBare (value : Json) : Prop where
  isObject : value.isObject = true
  get?_eq_none : ∀ name ∈ wrapperNames, value.get? name = none

/-- An object that holds another one under exactly one of the names, and anything else besides. -/
def Wraps (outer inner : Json) : Prop :=
  ∃ name ∈ wrapperNames,
    outer.get? name = some inner ∧ ∀ other ∈ wrapperNames, other ≠ name → outer.get? other = none

/-- So many wrappers around an object. -/
inductive WrappedIn (base : Json) : Nat → Json → Prop where
  | bare : WrappedIn base 0 base
  | wrap {count : Nat} {inner outer : Json}
      (within : WrappedIn base count inner)
      (wraps : Wraps outer inner) :
      WrappedIn base (count + 1) outer

private theorem wrapped?_of_isBare (bare : IsBare value) : wrapped? value = none := by
  have none (name : String) (isIn : name ∈ wrapperNames) : value.get? name = none :=
    bare.get?_eq_none name isIn
  rw [wrapped?, member?_of_both_absent (none _ (by decide)) (none _ (by decide)),
    member?_of_both_absent (none _ (by decide)) (none _ (by decide)), Option.none_or]

private theorem Wraps.isObject (wraps : Wraps outer inner) : outer.isObject = true := by
  obtain ⟨name, -, holds, -⟩ := wraps
  cases outer with
  | object members => rfl
  | _ => cases holds

private theorem Wraps.wrapped?_eq
    (wraps : Wraps outer inner)
    (isObject : inner.isObject = true) :
    wrapped? outer = some inner := by
  obtain ⟨name, isIn, holds, alone⟩ := wraps
  have shown : outer.present? name = some inner := Json.present?_of_isObject holds isObject
  have none (other : String) (isName : other ∈ wrapperNames) (differs : other ≠ name) :
      outer.get? other = none := alone other isName differs
  rw [wrapped?]
  -- One case for each name: those asked before it are absent, and nothing behind it is asked.
  simp only [wrapperNames, List.mem_cons, List.not_mem_nil, or_false] at isIn
  obtain rfl | rfl | rfl | rfl := isIn
  · rw [member?_of_found holds, shown, Option.some_or]
  · rw [member?_of_absent (none "base_account" (by decide) (by decide)), shown, Option.some_or]
  · rw [member?_of_both_absent (none "base_account" (by decide) (by decide))
        (none "baseAccount" (by decide) (by decide)),
      Option.none_or, member?_of_found holds, shown]
  · rw [member?_of_both_absent (none "base_account" (by decide) (by decide))
        (none "baseAccount" (by decide) (by decide)),
      Option.none_or, member?_of_absent (none "base_vesting_account" (by decide) (by decide)),
      shown]

private theorem WrappedIn.isObject
    (baseIsObject : base.isObject = true)
    (within : WrappedIn base count outer) :
    outer.isObject = true := by
  cases within with
  | bare => exact baseIsObject
  | wrap _ wraps => exact wraps.isObject

/-- Wrappers are taken off one by one, whatever else they hold. -/
theorem WrappedIn.unwrap_add
    (baseIsObject : base.isObject = true)
    (within : WrappedIn base count outer)
    (more : Nat) :
    unwrap (count + more) outer = unwrap more base := by
  induction within with
  | bare => rw [Nat.zero_add]
  | wrap within wraps inductionHypothesis =>
      have isObject := within.isObject baseIsObject
      rw [Nat.succ_add, unwrap_succ_of_wrapped? (wraps.wrapped?_eq isObject) isObject]
      exact inductionHypothesis

private theorem unwrap_of_isBare (bare : IsBare value) (count : Nat) : unwrap count value = value := by
  cases count with
  | zero => rfl
  | succ count =>
      refine unwrap_succ_of_stops (fun inner found => ?_) count
      rw [wrapped?_of_isBare bare] at found
      cases found

/-! ## Other spellings -/

/-- The object with the members of one name under another. -/
def respell (snake camel : String) : Json → Json
  | .object members =>
      .object (members.map fun member => if member.1 = snake then (camel, member.2) else member)
  | value => value

private theorem isObject_respell : (respell snake camel value).isObject = value.isObject := by
  cases value <;> rfl

private theorem get?_respell_of_ne
    {name : String}
    (notSnake : name ≠ snake)
    (notCamel : name ≠ camel) :
    (respell snake camel value).get? name = value.get? name := by
  cases value with
  | object members =>
      induction members with
      | nil => rfl
      | cons member rest inductionHypothesis =>
          obtain ⟨other, held⟩ := member
          simp only [respell, Json.get?, List.map_cons] at inductionHypothesis ⊢
          by_cases renamed : other = snake
          · subst renamed
            rw [if_pos rfl, List.lookup_cons, List.lookup_cons, beq_false_of_ne notCamel,
              beq_false_of_ne notSnake]
            exact inductionHypothesis
          · rw [if_neg renamed, List.lookup_cons, List.lookup_cons, inductionHypothesis]
  | _ => rfl

private theorem get?_respell_snake (differ : snake ≠ camel) :
    (respell snake camel value).get? snake = none := by
  cases value with
  | object members =>
      refine List.lookup_eq_none_iff.mpr fun member isIn => bne_iff_ne.mpr ?_
      obtain ⟨held, -, rfl⟩ := List.mem_map.mp isIn
      split
      · exact differ
      · rename_i kept
        exact Ne.symm kept
  | _ => rfl

private theorem get?_respell_camel (absent : value.get? camel = none) :
    (respell snake camel value).get? camel = value.get? snake := by
  cases value with
  | object members =>
      induction members with
      | nil => rfl
      | cons member rest inductionHypothesis =>
          obtain ⟨other, held⟩ := member
          simp only [respell, Json.get?, List.map_cons] at inductionHypothesis absent ⊢
          rw [List.lookup_cons] at absent
          split at absent
          · cases absent
          · rename_i notCamel
            by_cases renamed : other = snake
            · rw [if_pos renamed, renamed, List.lookup_cons_self, List.lookup_cons_self]
            · have notSnake : (snake == other) = false := beq_false_of_ne (Ne.symm renamed)
              rw [if_neg renamed, List.lookup_cons, List.lookup_cons, notCamel, notSnake]
              exact inductionHypothesis absent
  | _ => rfl

private theorem member?_respell
    (differ : snake ≠ camel)
    (absent : value.get? camel = none) :
    member? (respell snake camel value) snake camel = member? value snake camel := by
  rw [member?, member?, get?_respell_snake differ, get?_respell_camel absent, absent,
    Option.none_or, Option.or_none]

/-- The members that decide what an account object tells. -/
def memberNames : List (String × String) :=
  [("account_number", "accountNumber"), ("sequence", "sequence"), ("pub_key", "pubKey"),
    ("address", "address")]

/-- The members that decide and have two spellings. -/
def respellable : List (String × String) :=
  [("account_number", "accountNumber"), ("pub_key", "pubKey")]

/-- An object that is no wrapper and in which the same members are found. -/
structure TellsAs (base other : Json) : Prop where
  isBare : IsBare other
  member?_eq : ∀ names ∈ memberNames,
    member? other names.1 names.2 = member? base names.1 names.2

private theorem TellsAs.trans
    {first second third : Json}
    (left : TellsAs first second)
    (right : TellsAs second third) :
    TellsAs first third where
  isBare := right.isBare
  member?_eq names isIn := (right.member?_eq names isIn).trans (left.member?_eq names isIn)

private theorem TellsAs.respell
    (bare : IsBare base)
    (isIn : (snake, camel) ∈ respellable)
    (absent : base.get? camel = none) :
    TellsAs base (Account.respell snake camel base) := by
  -- A name that is given or taken away is asked for by its own member only, and by no wrapper.
  have apart : ∀ names ∈ respellable,
      names.1 ≠ names.2
        ∧ (∀ name ∈ wrapperNames, name ≠ names.1 ∧ name ≠ names.2)
        ∧ ∀ others ∈ memberNames, others = names
          ∨ (others.1 ≠ names.1 ∧ others.1 ≠ names.2) ∧ others.2 ≠ names.1 ∧ others.2 ≠ names.2 := by
    decide
  obtain ⟨differ, notWrapper, notMember⟩ := apart _ isIn
  refine ⟨⟨isObject_respell.trans bare.isObject, fun name isName => ?_⟩, fun others isMember => ?_⟩
  · obtain ⟨notSnake, notCamel⟩ := notWrapper name isName
    rw [get?_respell_of_ne notSnake notCamel]
    exact bare.get?_eq_none name isName
  · obtain rfl | ⟨⟨firstNotSnake, firstNotCamel⟩, secondNotSnake, secondNotCamel⟩ :=
      notMember others isMember
    · exact member?_respell differ absent
    · rw [member?, member?, get?_respell_of_ne firstNotSnake firstNotCamel,
        get?_respell_of_ne secondNotSnake secondNotCamel]

private theorem ofJson_of_tellsAs
    {other : Json}
    (bare : IsBare base)
    (tells : TellsAs base other) :
    ofJson address other = ofJson address base := by
  have same (snake camel : String) (isIn : (snake, camel) ∈ memberNames) :
      member? other snake camel = member? base snake camel := tells.member?_eq _ isIn
  rw [ofJson, ofJson, unwrap_of_isBare bare, unwrap_of_isBare tells.isBare,
    numberOf_of_member?_eq (same _ _ (by decide)), numberOf_of_member?_eq (same _ _ (by decide)),
    same "pub_key" "pubKey" (by decide), same "address" "address" (by decide)]

/-- The object with one of the two members under the other spelling, or both. -/
def respellings (base : Json) : List Json :=
  [respell "account_number" "accountNumber" base, respell "pub_key" "pubKey" base,
    respell "pub_key" "pubKey" (respell "account_number" "accountNumber" base)]

private theorem tellsAs_of_mem_respellings
    {other : Json}
    (bare : IsBare base)
    (noNumber : base.get? "accountNumber" = none)
    (noKey : base.get? "pubKey" = none)
    (isIn : other ∈ respellings base) :
    TellsAs base other := by
  have number : TellsAs base (respell "account_number" "accountNumber" base) :=
    .respell bare (by decide) noNumber
  simp only [respellings, List.mem_cons, List.not_mem_nil, or_false] at isIn
  obtain rfl | rfl | rfl := isIn
  · exact number
  · exact .respell bare (by decide) noKey
  · refine number.trans (.respell number.isBare (by decide) ?_)
    rw [get?_respell_of_ne (by decide) (by decide)]
    exact noKey

/-! ## Through wrappers -/

/-- Nothing but the object inside is told. What remains of the limit meets an object that is no
wrapper, and does nothing. -/
theorem ofJson_wrappedIn
    (bare : IsBare base)
    (few : count ≤ wrapperLimit)
    (within : WrappedIn base count outer) :
    ofJson address outer = ofJson address base := by
  have taken := within.unwrap_add bare.isObject (wrapperLimit - count)
  rw [Nat.add_sub_cancel' few, unwrap_of_isBare bare] at taken
  rw [ofJson, ofJson, taken, unwrap_of_isBare bare]

/-- An account object tells the same through few enough wrappers, whatever else these hold, and under
the other spellings of its members. -/
theorem ofJson_eq_of_wrapped
    (address : String)
    (bare : IsBare base)
    (few : count ≤ wrapperLimit)
    (within : WrappedIn base count outer) :
    ofJson address outer = ofJson address base
      ∧ (base.get? "accountNumber" = none → base.get? "pubKey" = none →
          ∀ other ∈ respellings base, ∀ otherCount ≤ wrapperLimit, ∀ otherOuter,
            WrappedIn other otherCount otherOuter →
              ofJson address otherOuter = ofJson address base) := by
  refine ⟨ofJson_wrappedIn bare few within, ?_⟩
  intro noNumber noKey other isIn otherCount otherFew otherOuter otherWithin
  have tells := tellsAs_of_mem_respellings bare noNumber noKey isIn
  rw [ofJson_wrappedIn tells.isBare otherFew otherWithin, ofJson_of_tellsAs bare tells]

/-- An account object with a key. -/
def sampleBase : Json :=
  .object
    [("account_number", .string "9"),
      ("pub_key",
        .object
          [("@type", .string "/cosmos.crypto.secp256k1.PubKey"),
            ("key", .string "AgICAgICAgICAgICAgICAgICAgICAgICAgICAgICAgIC")]),
      ("sequence", .integer 4)]

/-- A wrapper with an account of its own, which is not told. -/
def sampleWrapper (name : String) (inner : Json) : Json :=
  .object
    [("@type", .string "/custom.v1.FancyAccount"), ("account_number", .string "1"), (name, inner),
      ("pubKey", .null), ("sequence", .string "2")]

private theorem wraps_sampleWrapper
    {name : String}
    (isIn : name ∈ wrapperNames) :
    Wraps (sampleWrapper name inner) inner := by
  have noMember : ∀ name ∈ wrapperNames,
      name ≠ "@type" ∧ name ≠ "account_number" ∧ name ≠ "pubKey" ∧ name ≠ "sequence" := by
    decide
  obtain ⟨notType, notNumber, -, -⟩ := noMember name isIn
  refine ⟨name, isIn, ?_, fun other isName differs => ?_⟩
  · simp [sampleWrapper, Json.get?, List.lookup_cons, beq_false_of_ne notType,
      beq_false_of_ne notNumber]
  · obtain ⟨notType, notNumber, notKey, notSequence⟩ := noMember other isName
    simp [sampleWrapper, Json.get?, List.lookup_cons, beq_false_of_ne notType,
      beq_false_of_ne notNumber, beq_false_of_ne notKey, beq_false_of_ne notSequence,
      beq_false_of_ne differs]

/-- Four wrappers, one under each name. -/
def sampleWrapped : Json :=
  sampleWrapper "baseAccount"
    (sampleWrapper "base_vesting_account"
      (sampleWrapper "baseVestingAccount" (sampleWrapper "base_account" sampleBase)))

/-- What the sample tells. -/
def sampleInfo : AccountInfo :=
  ⟨"cosmos1q", 9, 4, some (List.replicate 33 2)⟩

theorem ofJson_sampleWrapped :
    (IsBare sampleBase ∧ WrappedIn sampleBase 4 sampleWrapped)
      ∧ ofJson "cosmos1q" sampleWrapped = .ok sampleInfo
      ∧ ∀ other ∈ respellings sampleBase, ofJson "cosmos1q" other = .ok sampleInfo := by
  have bare : IsBare sampleBase := ⟨rfl, by decide⟩
  have within : WrappedIn sampleBase 4 sampleWrapped :=
    .wrap (.wrap (.wrap (.wrap .bare (wraps_sampleWrapper (by decide)))
      (wraps_sampleWrapper (by decide))) (wraps_sampleWrapper (by decide)))
      (wraps_sampleWrapper (by decide))
  have told : ofJson "cosmos1q" sampleBase = .ok sampleInfo := by decide +kernel
  obtain ⟨same, respelled⟩ := ofJson_eq_of_wrapped "cosmos1q" bare (by decide) within
  refine ⟨⟨bare, within⟩, same.trans told, fun other isIn => ?_⟩
  exact (respelled rfl rfl other isIn 0 (by decide) other .bare).trans told

end ChainTx.Cosmos.Account
