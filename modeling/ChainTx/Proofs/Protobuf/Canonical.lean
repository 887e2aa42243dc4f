import ChainTx.Proofs.Protobuf.Wire

/-!
Contract: which bytes the encoders of records write.

Owns:
- canonical bytes, told by the wire format alone: fields in the order of their numbers, each number
  once, no number of another record, no member at its default, and nothing longer than necessary;
- that such fields fall into the members of a record, one after the other.

Does not own: the records. The readers accept many more bytes than these.
-/

set_option autoImplicit false

namespace ChainTx.Protobuf

/-! ## Canonical fields -/

/-- A field that shows a number or a byte string other than the default. -/
def Field.Shows (field : Field) : Prop :=
  match field.value with
  | .varint number => number ≠ 0
  | .delimited bytes => bytes ≠ []
  | .fixed64 _ | .group | .fixed32 _ => False

instance (field : Field) : Decidable field.Shows := by
  unfold Field.Shows
  split <;> infer_instance

/-- Fields whose numbers grow, from a first number on and up to a last one. -/
def InOrder (last : Nat) : Nat → List Field → Prop
  | _, [] => True
  | first, field :: rest =>
      first ≤ field.number ∧ field.number ≤ last ∧ field.Shows
        ∧ InOrder last (field.number + 1) rest

instance decidableInOrder (last : Nat) : (first : Nat) → (fields : List Field) →
    Decidable (InOrder last first fields)
  | _, [] => isTrue trivial
  | first, field :: rest =>
      have := decidableInOrder last (field.number + 1) rest
      inferInstanceAs (Decidable (first ≤ field.number ∧ field.number ≤ last ∧ field.Shows
        ∧ InOrder last (field.number + 1) rest))

/-- Bytes that spell out members with the numbers from 1 to a last one, as an encoder does. -/
def Canonical (last : Nat) (bytes : Bytes) : Prop :=
  ∃ fields,
    readFields nestingLimit bytes = some fields
      ∧ encodeFields fields = bytes
      ∧ InOrder last 1 fields

instance (last : Nat) (bytes : Bytes) : Decidable (Canonical last bytes) :=
  match read : readFields nestingLimit bytes with
  | none => isFalse (by simp [Canonical, read])
  | some fields =>
      decidable_of_iff (encodeFields fields = bytes ∧ InOrder last 1 fields)
        (by simp [Canonical, read])

namespace InOrder

variable {last first : Nat} {fields : List Field}

theorem eq_nil_of_lt
    (ordered : InOrder last first fields)
    (beyond : last < first) :
    fields = [] := by
  cases fields with
  | nil => rfl
  | cons field rest =>
      obtain ⟨firstLe, leLast, -, -⟩ := ordered
      omega

private theorem of_le
    {earlier : Nat}
    (ordered : InOrder last first fields)
    (le : earlier ≤ first) :
    InOrder last earlier fields := by
  cases fields with
  | nil => trivial
  | cons field rest =>
      obtain ⟨firstLe, leLast, shows, restOrdered⟩ := ordered
      exact ⟨Nat.le_trans le firstLe, leLast, shows, restOrdered⟩

/-- The members that a record shows, one by one: those behind come after. -/
theorem append_uintField
    (ordered : InOrder last (first + 1) fields)
    (firstLe : first ≤ last)
    (value : UInt64) :
    InOrder last first (uintField first value ++ fields) := by
  unfold uintField
  split
  · exact ordered.of_le (Nat.le_succ first)
  · rename_i nonzero
    exact ⟨Nat.le_refl first, firstLe, nonzero, ordered⟩

theorem append_bytesField
    (ordered : InOrder last (first + 1) fields)
    (firstLe : first ≤ last)
    (value : Bytes) :
    InOrder last first (bytesField first value ++ fields) := by
  unfold bytesField
  split
  · exact ordered.of_le (Nat.le_succ first)
  · rename_i full
    exact ⟨Nat.le_refl first, firstLe, full, ordered⟩

/-! ## Members -/

/-- The member of the first number, at its default or not, comes before all others. -/
theorem exists_member
    {α : Type}
    {shown : α → List Field}
    (ordered : InOrder last first fields)
    (default : α)
    (shownDefault : shown default = [])
    (carried : ∀ field ∈ fields, field.number = first → field.Shows →
      ∃ member, shown member = [field]) :
    ∃ member rest, fields = shown member ++ rest ∧ InOrder last (first + 1) rest := by
  cases fields with
  | nil => exact ⟨default, [], by rw [shownDefault, List.append_nil], trivial⟩
  | cons field rest =>
      obtain ⟨firstLe, leLast, shows, restOrdered⟩ := ordered
      by_cases isFirst : field.number = first
      · obtain ⟨member, shownMember⟩ := carried field List.mem_cons_self isFirst shows
        rw [isFirst] at restOrdered
        exact ⟨member, rest, by rw [shownMember, List.singleton_append], restOrdered⟩
      · have later : first + 1 ≤ field.number := by omega
        exact ⟨default, field :: rest, by rw [shownDefault, List.nil_append],
          later, leLast, shows, restOrdered⟩

theorem exists_uintField
    (ordered : InOrder last first fields)
    (carried : ∀ field ∈ fields, field.number = first → ∃ value, field.uint64? = some value) :
    ∃ value rest, fields = uintField first value ++ rest ∧ InOrder last (first + 1) rest := by
  refine ordered.exists_member 0 rfl fun field member isFirst shows => ?_
  obtain ⟨value, read⟩ := carried field member isFirst
  obtain ⟨number, shown⟩ := field
  cases shown with
  | varint found =>
      cases isFirst
      exact ⟨found, if_neg shows⟩
  | _ => cases read

theorem exists_bytesField
    (ordered : InOrder last first fields)
    (carried : ∀ field ∈ fields, field.number = first → ∃ value, field.bytes? = some value) :
    ∃ value rest, fields = bytesField first value ++ rest ∧ InOrder last (first + 1) rest := by
  refine ordered.exists_member [] rfl fun field member isFirst shows => ?_
  obtain ⟨value, read⟩ := carried field member isFirst
  obtain ⟨number, shown⟩ := field
  cases shown with
  | delimited found =>
      cases isFirst
      exact ⟨found, if_neg shows⟩
  | _ => cases read

theorem exists_textField
    (ordered : InOrder last first fields)
    (carried : ∀ field ∈ fields, field.number = first → ∃ value, field.text? = some value) :
    ∃ value rest, fields = textField first value ++ rest ∧ InOrder last (first + 1) rest := by
  refine ordered.exists_member "" ?_ fun field member isFirst shows => ?_
  · rw [textField, Bytes.ofText_empty]
    rfl
  · obtain ⟨value, read⟩ := carried field member isFirst
    obtain ⟨number, shown⟩ := field
    cases shown with
    | delimited found =>
        cases isFirst
        have spelled : Bytes.ofText value = found := Bytes.ofText_of_toText? read
        exact ⟨value, by rw [textField, spelled]; exact if_neg shows⟩
    | _ => cases read

end InOrder

/-! ## Records -/

section Records

variable {Record : Type} {step : Record → Field → Option Record} {record taken : Record}
  {bytes : Bytes}

/-- Every field of a message that a record takes in is taken in by some step. -/
theorem stepped_of_mem
    {fields : List Field}
    {field : Field}
    (folded : fields.foldlM step record = some taken)
    (member : field ∈ fields) :
    ∃ before after, step before field = some after := by
  induction fields generalizing record with
  | nil => cases member
  | cons head rest inductionHypothesis =>
      obtain ⟨between, stepped, restFolded⟩ := Option.bind_eq_some_iff.mp folded
      rcases List.mem_cons.mp member with rfl | member
      · exact ⟨record, between, stepped⟩
      · exact inductionHypothesis restFolded member

/-- The bytes of fields that are in order are canonical. -/
theorem canonical_encodeFields
    {last : Nat}
    {fields : List Field}
    (writable : AllWritable fields)
    (sized : (encodeFields fields).Sized)
    (ordered : InOrder last 1 fields) :
    Canonical last (encodeFields fields) :=
  ⟨fields, readFields_encodeFields nestingLimit fields writable sized, rfl, ordered⟩

/-- Canonical bytes that a record takes in are the bytes of fields in order, each taken in by some
step. -/
theorem Canonical.exists_fields
    {last : Nat}
    (canonical : Canonical last bytes)
    (merged : mergeFields nestingLimit step record bytes = some taken) :
    ∃ fields,
      encodeFields fields = bytes
        ∧ InOrder last 1 fields
        ∧ ∀ field ∈ fields, ∃ before after, step before field = some after := by
  obtain ⟨fields, read, encoded, ordered⟩ := canonical
  obtain ⟨found, foundRead, folded⟩ := Option.bind_eq_some_iff.mp merged
  rw [read] at foundRead
  cases foundRead
  exact ⟨fields, encoded, ordered, fun field member => stepped_of_mem folded member⟩

end Records

end ChainTx.Protobuf
