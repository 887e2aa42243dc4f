import ChainTx.SigningKey

/-!
Contract: what has been found when checks pass.

Owns: the law of checks that are made one after the other, also for the class of the errors that they
find, the laws of faults put in other words, and the laws of the checks that signing makes in both
families.
-/

set_option autoImplicit false

namespace ChainTx

/-- Checks one after the other pass if the first one does and the rest does with what it found. -/
theorem bind_eq_ok_iff
    {ε α β : Type}
    {result : Except ε α}
    {next : α → Except ε β}
    {value : β} :
    (result >>= next) = .ok value ↔ ∃ found, result = .ok found ∧ next found = .ok value := by
  cases result <;> simp [bind, Except.bind]

/-- Checks one after the other fail if the first one does, or the rest does with what it found. -/
theorem bind_eq_error_iff
    {ε α β : Type}
    {result : Except ε α}
    {next : α → Except ε β}
    {error : ε} :
    (result >>= next) = .error error
      ↔ result = .error error ∨ ∃ found, result = .ok found ∧ next found = .error error := by
  cases result <;> simp [bind, Except.bind]

theorem eq_ok_of_toOption
    {ε α : Type}
    {result : Except ε α}
    {value : α}
    (found : result.toOption = some value) :
    result = .ok value := by
  cases result with
  | ok passed => exact congrArg Except.ok (Option.some.inj found)
  | error fault => cases found

@[simp] theorem mapError_ok
    {ε ε' α : Type}
    {translate : ε → ε'}
    {value : α} :
    (Except.ok value).mapError translate = .ok value :=
  rfl

@[simp] theorem mapError_error
    {ε ε' α : Type}
    {translate : ε → ε'}
    {error : ε} :
    (Except.error error : Except ε α).mapError translate = .error (translate error) :=
  rfl

/-- Putting faults in other words lets the same values pass. -/
theorem mapError_eq_ok_iff
    {ε ε' α : Type}
    {translate : ε → ε'}
    {result : Except ε α}
    {value : α} :
    result.mapError translate = .ok value ↔ result = .ok value := by
  cases result <;> simp

/-- What is wrong, if anything, is an error of a class. -/
def FailsOnly {α : Type} (isOf : TxError → Prop) : Except TxError α → Prop
  | .ok _ => True
  | .error error => isOf error

/-- What follows a check need only be judged for the values that pass it. -/
theorem FailsOnly.bind_of_eq
    {α β : Type}
    {isOf : TxError → Prop}
    {checked : Except TxError α}
    {next : α → Except TxError β}
    (first : FailsOnly isOf checked)
    (rest : ∀ value, checked = .ok value → FailsOnly isOf (next value)) :
    FailsOnly isOf (checked >>= next) := by
  cases checked with
  | ok value => exact rest value rfl
  | error error => exact first

theorem FailsOnly.bind
    {α β : Type}
    {isOf : TxError → Prop}
    {checked : Except TxError α}
    {next : α → Except TxError β}
    (first : FailsOnly isOf checked)
    (rest : ∀ value, FailsOnly isOf (next value)) :
    FailsOnly isOf (checked >>= next) :=
  first.bind_of_eq fun value _ => rest value

theorem FailsOnly.map
    {α β : Type}
    {isOf : TxError → Prop}
    {checked : Except TxError α}
    (fails : FailsOnly isOf checked)
    (change : α → β) :
    FailsOnly isOf (checked.map change) := by
  cases checked with
  | ok value => trivial
  | error error => exact fails

namespace SigningKey

theorem require_eq_ok_iff
    {condition : Bool}
    {fault : SigningFault}
    {passed : Unit} :
    require condition fault = .ok passed ↔ condition = true := by
  cases condition <;> simp [require]

theorem require_eq_error_iff
    {condition : Bool}
    {fault : SigningFault}
    {error : TxError} :
    require condition fault = .error error ↔ condition = false ∧ .signing fault = error := by
  cases condition <;> simp [require]

/-- A key loads if it has 32 bytes and they spell a number in range. -/
theorem load_eq_ok_iff
    {framework : Framework}
    {bytes : Bytes}
    {key : Ecdsa.PrivateKey} :
    load framework bytes = .ok key
      ↔ bytes.length = 32 ∧ Ecdsa.PrivateKey.ofBytes? bytes = some key := by
  unfold load
  by_cases empty : bytes = []
  · simp [empty]
  · by_cases wide : bytes.length = 32
    · rw [if_neg empty, if_neg (not_not_intro wide)]
      cases Ecdsa.PrivateKey.ofBytes? bytes <;> simp [wide]
    · rw [if_neg empty, if_pos wide]
      simp [wide]

/-- What is wrong with a key that does not load is said of its bytes, and not of another key. -/
theorem load_ne_foreignKey
    {framework : Framework}
    {bytes : Bytes} :
    load framework bytes ≠ .error (.signing .foreignKey) := by
  unfold load
  split
  · simp
  · split
    · simp
    · split <;> simp

/-- The key whose number is one. -/
def one : SigningKey :=
  ⟨"", List.replicate 31 0 ++ [1]⟩

theorem load_one (framework : Framework) :
    load framework one.bytes = .ok ⟨1, by decide, by decide⟩ :=
  load_eq_ok_iff.mpr ⟨by decide, rfl⟩

end SigningKey

end ChainTx
