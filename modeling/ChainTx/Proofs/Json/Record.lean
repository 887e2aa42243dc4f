import ChainTx.Json.Record

/-!
Contract: what is read from records.

Owns:
- objects whose members have distinct names, for which the record is what is looked up;
- the members of a name that an object may hold, which decide whether the name can be read;
- readers of members that may be missing.

Does not own: which records there are.
-/

set_option autoImplicit false

namespace ChainTx.Json

variable {α : Type} {name : String} {value : Json} {members : List (String × Json)}

/-! ## Members of one name -/

/-- The member that is read for a name is the one that is there. -/
theorem mem_iff_of_single?
    {found : Option Json}
    (read : single? name members = some found) :
    (name, value) ∈ members ↔ found = some value := by
  have kept : (name, value) ∈ members
      ↔ (name, value) ∈ members.filter fun member => member.1 == name := by
    rw [List.mem_filter, beq_self_eq_true, and_iff_left rfl]
  rw [kept]
  unfold single? at read
  split at read
  · rename_i none
    cases read
    simp only [none, List.not_mem_nil, reduceCtorEq]
  · rename_i only single
    cases read
    have named : only.1 = name := by
      have member : only ∈ members.filter fun member => member.1 == name := by
        rw [single]
        exact List.mem_singleton_self only
      exact eq_of_beq (List.mem_filter.mp member).2
    obtain ⟨onlyName, onlyValue⟩ := only
    simp only at named
    rw [single, List.mem_singleton, named, Prod.mk.injEq, Option.some.injEq, and_iff_right rfl,
      eq_comm]
  · cases read

/-- A name can be read if it comes at most once. -/
theorem exists_single?_iff :
    (∃ found, single? name members = some found) ↔ (members.map Prod.fst).count name ≤ 1 := by
  have counted : (members.map Prod.fst).count name
      = (members.filter fun member => member.1 == name).length := by
    rw [List.count_eq_length_filter, List.filter_map, List.length_map]
    rfl
  rw [counted]
  unfold single?
  split
  · rename_i none
    simp [none]
  · rename_i only single
    simp [single]
  · rename_i notNone notSingle
    constructor
    · rintro ⟨found, impossible⟩
      cases impossible
    · intro short
      cases kept : members.filter fun member => member.1 == name with
      | nil => exact absurd kept notNone
      | cons first rest =>
          rw [kept] at short
          have alone : rest = [] := List.eq_nil_of_length_eq_zero (by simpa using short)
          rw [alone] at kept
          exact absurd kept (notSingle first)

/-! ## Distinct names -/

/-- No name comes twice. -/
def Distinct (members : List (String × Json)) : Prop :=
  (members.map Prod.fst).Nodup

instance (members : List (String × Json)) : Decidable (Distinct members) := by
  unfold Distinct
  infer_instance

/-- In an object of distinct names, reading a name is looking it up. -/
theorem single?_eq_lookup (distinct : Distinct members) :
    single? name members = some (members.lookup name) := by
  induction members with
  | nil => rfl
  | cons member rest inductionHypothesis =>
      obtain ⟨other, held⟩ := member
      obtain ⟨absent, restDistinct⟩ := List.nodup_cons.mp distinct
      by_cases same : other = name
      · have none : rest.filter (fun member => member.1 == name) = [] := by
          rw [List.filter_eq_nil_iff]
          intro member isIn named
          apply absent
          exact List.mem_map.mpr ⟨member, isIn, (eq_of_beq named).trans same.symm⟩
        rw [single?, List.filter_cons_of_pos (by simpa using same), none, same,
          List.lookup_cons_self]
      · have read := inductionHypothesis restDistinct
        have others : (name == other) = false := beq_false_of_ne (Ne.symm same)
        rw [List.lookup_cons, others, ← read, single?, single?,
          List.filter_cons_of_neg (by simpa using same)]

/-- The member of a name is what is found when it is looked up. -/
theorem mem_iff_lookup (distinct : Distinct members) :
    (name, value) ∈ members ↔ members.lookup name = some value :=
  mem_iff_of_single? (single?_eq_lookup distinct)

/-- The record of an object with distinct names. -/
theorem record?_of_distinct
    (distinct : Distinct members)
    (names : List String)
    (least : Nat) :
    record? names least (.object members)
      = some (names.map fun name => members.lookup name) := by
  show (names.mapM fun name => single? name members) = _
  induction names with
  | nil => rfl
  | cons name rest inductionHypothesis =>
      rw [List.mapM_cons, single?_eq_lookup distinct, inductionHypothesis]
      rfl

/-! ## Members that may be missing -/

/-- A member is readable as optional if it is missing, null or readable. -/
theorem exists_optional?_iff
    {read : Json → Option α}
    {found : Option Json} :
    (∃ result, optional? read found = some result)
      ↔ ∀ value, found = some value → value = .null ∨ ∃ result, read value = some result := by
  cases found with
  | none => simp [optional?]
  | some value =>
      by_cases null : value = .null
      · subst null
        simp [optional?]
      · have asked : optional? read (some value) = (read value).map some := by
          unfold optional?
          split
          · rename_i missing
            cases missing
          · rename_i isNull
            exact absurd (Option.some.inj isNull) null
          · rename_i other isOther
            rw [Option.some.inj isOther]
        rw [asked]
        simp only [Option.map_eq_some_iff, Option.some.injEq, forall_eq', null, false_or]
        constructor
        · rintro ⟨_, result, readable, _⟩
          exact ⟨result, readable⟩
        · rintro ⟨result, readable⟩
          exact ⟨_, result, readable, rfl⟩

/-- A member with a default is readable if it is missing or readable. -/
theorem exists_defaulted?_iff
    {read : Json → Option α}
    {default : α}
    {found : Option Json} :
    (∃ result, defaulted? read default found = some result)
      ↔ ∀ value, found = some value → ∃ result, read value = some result := by
  cases found <;> simp [defaulted?]

/-! ## Numbers and texts -/

/-- A number of 64 bits with a sign is read from its value. -/
theorem int64?_toInt (number : Int64) :
    int64? (.integer number.toInt) = some number := by
  have bounds : -2 ^ 63 ≤ number.toInt ∧ number.toInt < 2 ^ 63 :=
    ⟨number.le_toInt, number.toInt_lt⟩
  rw [int64?, if_pos bounds, Int64.ofInt_toInt]

theorem exists_int64?_iff :
    (∃ number, int64? value = some number) ↔ ∃ number : Int64, value = .integer number.toInt := by
  constructor
  · rintro ⟨number, read⟩
    unfold int64? at read
    split at read
    · rename_i held
      split at read
      · rename_i bounds
        cases read
        exact ⟨_, by rw [Int64.toInt_ofInt_of_le bounds.1 bounds.2]⟩
      · cases read
    · cases read
  · rintro ⟨number, rfl⟩
    exact ⟨number, int64?_toInt number⟩

theorem exists_string?_iff :
    (∃ text, value.string? = some text) ↔ ∃ text, value = .string text := by
  cases value <;> simp [string?]

end ChainTx.Json
