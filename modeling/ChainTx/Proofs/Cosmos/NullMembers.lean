import ChainTx.Proofs.Cosmos.Account

/-!
Contract: account objects and their null members.

Owns:
- members that a null under the first spelling hides, and that no other null matters;
- what the deletion of null members changes in what an account object tells, and in what the answer of
  a node tells.

Does not own: objects with two members of one name, which the reader of answers never returns.

A null member counts as missing, but only once the spelling has been chosen, and the first spelling
that is there is chosen. The deletion of null members brings what they hide to light.
-/

set_option autoImplicit false

namespace ChainTx.Cosmos.Account

open Json (present?)

variable {address snake camel : String} {account inner value : Json} {count : Nat}

/-! ## Hidden members -/

/-- A member under either spelling, the first that is there and not null. -/
def either? (value : Json) (snake camel : String) : Option Json :=
  (value.present? snake).or (value.present? camel)

/-- A null under the first spelling stands before a member under the second. -/
def Hides (value : Json) (snake camel : String) : Prop :=
  value.get? snake = some .null ∧ value.present? camel ≠ none

private theorem hides_iff :
    Hides value snake camel
      ↔ (value.get? snake).isSome = true ∧ (value.present? snake).isNone = true
        ∧ (value.present? camel).isSome = true := by
  rw [Hides, Option.isNone_iff_eq_none, Json.present?_eq_none_iff, ← Option.ne_none_iff_isSome,
    ← Option.ne_none_iff_isSome, ← and_assoc]
  refine and_congr_left fun _ => ?_
  constructor
  · intro null
    exact ⟨null ▸ Option.some_ne_none _, .inr null⟩
  · rintro ⟨found, absent | null⟩
    · exact absurd absent found
    · exact null

instance : Decidable (Hides value snake camel) :=
  decidable_of_iff _ hides_iff.symm

private theorem member?_of_hides (hidden : Hides value snake camel) :
    member? value snake camel = none := by
  rw [member?_of_found hidden.1]
  exact Json.present?_eq_none_iff.mpr (.inr hidden.1)

private theorem either?_of_hides (hidden : Hides value snake camel) :
    either? value snake camel = value.present? camel := by
  rw [either?, Json.present?_eq_none_iff.mpr (.inr hidden.1), Option.none_or]

/-- Only a null that hides a member keeps it from being found. -/
theorem member?_eq_either?_iff :
    member? value snake camel = either? value snake camel ↔ ¬ Hides value snake camel := by
  cases found : value.get? snake with
  | none =>
      have missing : value.present? snake = none := Json.present?_eq_none_iff.mpr (.inl found)
      rw [member?_of_absent found, either?, missing, Option.none_or, Hides, found]
      simp
  | some first =>
      rw [member?_of_found found, either?, Hides, found, Option.some.injEq]
      by_cases isNull : first = .null
      · have missing : value.present? snake = none :=
          Json.present?_eq_none_iff.mpr (.inr (isNull ▸ found))
        rw [missing, Option.none_or, not_and_not_right, eq_comm]
        exact ⟨fun none _ => none, fun none => none isNull⟩
      · cases kept : value.present? snake with
        | none =>
            obtain absent | null := Json.present?_eq_none_iff.mp kept
            · rw [found] at absent
              cases absent
            · rw [found] at null
              exact absurd (Option.some.inj null) isNull
        | some second => simp [isNull]

/-- A member with one spelling only cannot be hidden. -/
theorem not_hides_self (value : Json) (name : String) : ¬ Hides value name name := by
  rintro ⟨null, shown⟩
  exact shown (Json.present?_eq_none_iff.mpr (.inr null))

/-- After the deletion of null members, what is found is what stands under either spelling. -/
theorem member?_prune (wellFormed : value.isWellFormed = true) :
    member? value.prune snake camel = (either? value snake camel).map Json.prune := by
  have kept : ¬ Hides value.prune snake camel := by
    rintro ⟨null, -⟩
    rw [Json.get?_prune wellFormed, Option.map_eq_some_iff] at null
    obtain ⟨found, read, isNull⟩ := null
    exact Json.ne_null_of_present? read (Json.prune_eq_null_iff.mp isNull)
  rw [member?_eq_either?_iff.mpr kept, either?, either?, Json.present?_prune wellFormed,
    Json.present?_prune wellFormed, Option.map_or]

/-! ## Numbers, keys and addresses -/

private theorem numberOf_prune
    (wellFormed : value.isWellFormed = true)
    (notHidden : ¬ Hides value snake camel) :
    numberOf value.prune snake camel = numberOf value snake camel := by
  rw [numberOf, numberOf, member?_prune wellFormed, ← member?_eq_either?_iff.mpr notHidden]
  cases member? value snake camel with
  | none => rfl
  | some found => cases found <;> rfl

private theorem keyBytes?_prune (wellFormed : value.isWellFormed = true) :
    keyBytes? value.prune = keyBytes? value := by
  rw [keyBytes?, keyBytes?, Json.bind_string?_prune wellFormed, Json.bind_string?_prune wellFormed]

private theorem isWellFormed_of_either?
    (wellFormed : value.isWellFormed = true)
    (found : either? value snake camel = some inner) :
    inner.isWellFormed = true := by
  obtain first | ⟨-, second⟩ := Option.or_eq_some_iff.mp found
  · exact Json.isWellFormed_of_get? wellFormed (Json.get?_of_present? first)
  · exact Json.isWellFormed_of_get? wellFormed (Json.get?_of_present? second)

private theorem isWellFormed_of_member?
    (wellFormed : value.isWellFormed = true)
    (found : member? value snake camel = some inner) :
    inner.isWellFormed = true := by
  by_cases hidden : Hides value snake camel
  · rw [member?_of_hides hidden] at found
    cases found
  · rw [member?_eq_either?_iff.mpr hidden] at found
    exact isWellFormed_of_either? wellFormed found

/-- The key that is told once null members are deleted. -/
theorem bind_keyBytes?_prune (wellFormed : value.isWellFormed = true) :
    (member? value.prune snake camel).bind keyBytes?
      = (either? value snake camel).bind keyBytes? := by
  rw [member?_prune wellFormed, Option.bind_map]
  exact Option.bind_congr fun found isFound =>
    keyBytes?_prune (isWellFormed_of_either? wellFormed isFound)

private theorem bind_string?_prune (wellFormed : value.isWellFormed = true) (name : String) :
    (member? value.prune name name).bind Json.string?
      = (member? value name name).bind Json.string? := by
  rw [member?_prune wellFormed, ← member?_eq_either?_iff.mpr (not_hides_self value name),
    Option.bind_map]
  exact Option.bind_congr fun found _ => Json.string?_prune

/-! ## Wrappers -/

/-- A null stands before a wrapper under the second spelling. -/
def HidesWrapper (value : Json) : Prop :=
  Hides value "base_account" "baseAccount"
    ∨ Hides value "base_vesting_account" "baseVestingAccount"

instance : Decidable (HidesWrapper value) :=
  inferInstanceAs (Decidable (_ ∨ _))

private theorem isWellFormed_of_wrapped?
    (wellFormed : value.isWellFormed = true)
    (found : wrapped? value = some inner) :
    inner.isWellFormed = true := by
  obtain first | ⟨-, second⟩ := Option.or_eq_some_iff.mp found
  · exact isWellFormed_of_member? wellFormed first
  · exact isWellFormed_of_member? wellFormed second

private theorem isWellFormed_unwrap (wellFormed : value.isWellFormed = true) (count : Nat) :
    (unwrap count value).isWellFormed = true := by
  induction count generalizing value with
  | zero => exact wellFormed
  | succ count inductionHypothesis =>
      obtain ⟨inner, found, isObject⟩ | stops := wrapped?_cases value
      · rw [unwrap_succ_of_wrapped? found isObject]
        exact inductionHypothesis (isWellFormed_of_wrapped? wellFormed found)
      · rwa [unwrap_succ_of_stops stops]

private theorem wrapped?_prune
    (wellFormed : value.isWellFormed = true)
    (clear : ¬ HidesWrapper value) :
    wrapped? value.prune = (wrapped? value).map Json.prune := by
  obtain ⟨first, second⟩ := not_or.mp clear
  rw [wrapped?, wrapped?, member?_prune wellFormed, member?_prune wellFormed,
    member?_eq_either?_iff.mpr first, member?_eq_either?_iff.mpr second, Option.map_or]

/-- Where nulls hide no wrapper on the way, their deletion leads to the same object. -/
theorem unwrap_prune
    (wellFormed : value.isWellFormed = true)
    (clear : ∀ taken < count, ¬ HidesWrapper (unwrap taken value)) :
    unwrap count value.prune = (unwrap count value).prune := by
  -- By induction on the wrappers to take off; what is known of the layers passes to the object inside.
  induction count generalizing value with
  | zero => rfl
  | succ count inductionHypothesis =>
      have pruned := wrapped?_prune wellFormed (clear 0 (Nat.succ_pos count))
      obtain ⟨inner, found, isObject⟩ | stops := wrapped?_cases value
      · have rest : ∀ taken < count, ¬ HidesWrapper (unwrap taken inner) := by
          intro taken few
          rw [← unwrap_succ_of_wrapped? found isObject]
          exact clear (taken + 1) (Nat.succ_lt_succ few)
        rw [found, Option.map_some] at pruned
        rw [unwrap_succ_of_wrapped? found isObject,
          unwrap_succ_of_wrapped? pruned (Json.isObject_prune.trans isObject)]
        exact inductionHypothesis (isWellFormed_of_wrapped? wellFormed found) rest
      · have prunedStops : ∀ inner, wrapped? value.prune = some inner → inner.isObject = false := by
          intro inner found
          rw [pruned, Option.map_eq_some_iff] at found
          obtain ⟨held, isHeld, rfl⟩ := found
          exact Json.isObject_prune.trans (stops held isHeld)
        rw [unwrap_succ_of_stops stops, unwrap_succ_of_stops prunedStops]

/-! ## Account objects -/

private theorem with_publicKey_eq_iff
    {info : AccountInfo}
    {key : Option Bytes} :
    { info with publicKey := key } = info ↔ key = info.publicKey := by
  constructor
  · exact congrArg AccountInfo.publicKey
  · rintro rfl
    rfl

/-- Unless the account number is hidden, nothing but the key changes. -/
theorem ofJson_prune
    (address : String)
    (wellFormed : account.isWellFormed = true)
    (clear : ∀ taken < wrapperLimit, ¬ HidesWrapper (unwrap taken account))
    (notHidden : ¬ Hides (unwrap wrapperLimit account) "account_number" "accountNumber") :
    ofJson address account.prune
      = (ofJson address account).map fun info =>
          { info with
            publicKey :=
              (either? (unwrap wrapperLimit account) "pub_key" "pubKey").bind keyBytes? } := by
  have baseWellFormed : (unwrap wrapperLimit account).isWellFormed = true :=
    isWellFormed_unwrap wellFormed wrapperLimit
  rw [ofJson, ofJson, unwrap_prune wellFormed clear, numberOf_prune baseWellFormed notHidden,
    numberOf_prune baseWellFormed (not_hides_self _ _), bind_keyBytes?_prune baseWellFormed,
    bind_string?_prune baseWellFormed]
  cases numberOf (unwrap wrapperLimit account) "account_number" "accountNumber" with
  | error error => rfl
  | ok accountNumber =>
      cases numberOf (unwrap wrapperLimit account) "sequence" "sequence" with
      | error error => rfl
      | ok sequence => rfl

/-- Where no wrapper is hidden, the account object tells the same without its null members exactly if they
hide neither the account number nor a usable key in what tells something. -/
theorem ofJson_prune_eq_ofJson_iff
    (address : String)
    (wellFormed : account.isWellFormed = true)
    (clear : ∀ taken < wrapperLimit, ¬ HidesWrapper (unwrap taken account)) :
    ofJson address account.prune = ofJson address account
      ↔ ¬ Hides (unwrap wrapperLimit account) "account_number" "accountNumber"
        ∧ (Hides (unwrap wrapperLimit account) "pub_key" "pubKey" →
            (∃ info, ofJson address account = .ok info) →
            (either? (unwrap wrapperLimit account) "pub_key" "pubKey").bind keyBytes? = none) := by
  -- A hidden number is an error that names it as missing, which the deletion takes away.
  by_cases hidden : Hides (unwrap wrapperLimit account) "account_number" "accountNumber"
  · have missing : ofJson address account
        = .error (.transport (.accountField "account_number" .missing)) :=
      ofJson_eq_missing_iff.mpr (member?_of_hides hidden)
    have differs : ofJson address account.prune ≠ ofJson address account := by
      rw [missing, Ne, ofJson_eq_missing_iff, unwrap_prune wellFormed clear,
        member?_prune (isWellFormed_unwrap wellFormed wrapperLimit),
        either?_of_hides hidden, Option.map_eq_none_iff]
      exact hidden.2
    exact iff_of_false differs fun claimed => claimed.1 hidden
  · have changed := ofJson_prune address wellFormed clear hidden
    rw [and_iff_right hidden]
    cases told : ofJson address account with
    | error error =>
        rw [told] at changed
        refine iff_of_true changed ?_
        rintro - ⟨info, impossible⟩
        cases impossible
    | ok info =>
        have key := publicKey_of_ofJson told
        rw [told] at changed
        rw [changed, Except.map, Except.ok.injEq, with_publicKey_eq_iff, key]
        by_cases keyHidden : Hides (unwrap wrapperLimit account) "pub_key" "pubKey"
        · rw [member?_of_hides keyHidden, Option.bind_none, imp_iff_right keyHidden,
            imp_iff_right ⟨info, rfl⟩]
        · rw [member?_eq_either?_iff.mpr keyHidden]
          exact iff_of_true rfl fun claimed => absurd claimed keyHidden

/-- The deletion of null members changes nothing exactly where no null hides the account number, or a
usable key in an account object that tells something; and such a null is all that keeps a member of
either spelling from being found. -/
theorem ofJson_prune_eq_iff
    (address : String)
    (wellFormed : account.isWellFormed = true)
    (clear : ∀ taken < wrapperLimit, ¬ HidesWrapper (unwrap taken account)) :
    (ofJson address account.prune = ofJson address account
        ↔ ¬ Hides (unwrap wrapperLimit account) "account_number" "accountNumber"
          ∧ (Hides (unwrap wrapperLimit account) "pub_key" "pubKey" →
              (∃ info, ofJson address account = .ok info) →
              (either? (unwrap wrapperLimit account) "pub_key" "pubKey").bind keyBytes? = none))
      ∧ ∀ value snake camel,
          member? value snake camel = either? value snake camel ↔ ¬ Hides value snake camel :=
  ⟨ofJson_prune_eq_ofJson_iff address wellFormed clear, fun _ _ _ => member?_eq_either?_iff⟩

/-- A vesting account with null members that hide nothing. -/
def sampleVesting : Json :=
  .object
    [("base_account", .null),
      ("base_vesting_account",
        .object
          [("account_number", .string "42"), ("original_vesting", .null), ("pub_key", .null),
            ("sequence", .string "7")]),
      ("start_time", .null)]

theorem ofJson_prune_sampleVesting :
    sampleVesting.isWellFormed = true
      ∧ (∀ taken < wrapperLimit, ¬ HidesWrapper (unwrap taken sampleVesting))
      ∧ ofJson "cosmos1q" sampleVesting.prune = ofJson "cosmos1q" sampleVesting
      ∧ ofJson "cosmos1q" sampleVesting = .ok ⟨"cosmos1q", 42, 7, none⟩ := by
  have wellFormed : sampleVesting.isWellFormed = true := by decide
  have clear : ∀ taken < wrapperLimit, ¬ HidesWrapper (unwrap taken sampleVesting) := by decide
  have told : ofJson "cosmos1q" sampleVesting = .ok ⟨"cosmos1q", 42, 7, none⟩ := by decide
  have number : ¬ Hides (unwrap wrapperLimit sampleVesting) "account_number" "accountNumber" := by
    decide
  have key : ¬ Hides (unwrap wrapperLimit sampleVesting) "pub_key" "pubKey" := by decide
  exact ⟨wellFormed, clear,
    (ofJson_prune_eq_iff "cosmos1q" wellFormed clear).1.mpr ⟨number, fun hidden => absurd hidden key⟩,
    told⟩

/-- An account object with a null before its number. -/
def sampleMasked : Json :=
  .object [("accountNumber", .string "7"), ("account_number", .null), ("sequence", .string "1")]

/-- The number is missing until the null is deleted. -/
theorem ofJson_prune_sampleMasked :
    sampleMasked.isWellFormed = true
      ∧ ofJson "cosmos1q" sampleMasked
        = .error (.transport (.accountField "account_number" .missing))
      ∧ ofJson "cosmos1q" sampleMasked.prune = .ok ⟨"cosmos1q", 7, 1, none⟩ := by
  decide

/-! ## Answers of a node -/

/-- The account object in the answer of a node is well-formed. -/
theorem isWellFormed_of_reply
    {reply : HttpReply}
    {body : Json}
    (read : Json.read? reply.body = some body)
    (holds : body.get? "account" = some account) :
    account.isWellFormed = true :=
  Json.isWellFormed_of_get? (Json.isWellFormed_of_read? read) holds

private theorem ofReply_of_holds
    {reply : HttpReply}
    {body : Json}
    (success : reply.isSuccess = true)
    (read : Json.read? reply.body = some body)
    (holds : body.get? "account" = some account) :
    ofReply address reply = ofJson address account := by
  have found : reply.status ≠ 404 := by
    intro notFound
    rw [HttpReply.isSuccess, notFound] at success
    cases success
  rw [ofReply, if_neg found, if_pos success]
  simp only [read, holds]

/-- Of an account object that a node sends, nothing has to be assumed but that no wrapper is hidden: the
reader of answers lets no name stand twice. -/
theorem ofReply_eq_ofJson_prune_iff
    {reply : HttpReply}
    {body : Json}
    (success : reply.isSuccess = true)
    (read : Json.read? reply.body = some body)
    (holds : body.get? "account" = some account)
    (clear : ∀ taken < wrapperLimit, ¬ HidesWrapper (unwrap taken account)) :
    ofJson address account.prune = ofReply address reply
      ↔ ¬ Hides (unwrap wrapperLimit account) "account_number" "accountNumber"
        ∧ (Hides (unwrap wrapperLimit account) "pub_key" "pubKey" →
            (∃ info, ofReply address reply = .ok info) →
            (either? (unwrap wrapperLimit account) "pub_key" "pubKey").bind keyBytes? = none) := by
  rw [ofReply_of_holds success read holds]
  exact ofJson_prune_eq_ofJson_iff address (isWellFormed_of_reply read holds) clear

end ChainTx.Cosmos.Account
