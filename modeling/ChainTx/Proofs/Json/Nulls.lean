import ChainTx.Json.Reader
import ChainTx.Proofs.Json.Record
import Mathlib.Data.String.Basic

/-!
Contract: values without the null members of their objects.

Owns:
- values whose objects have distinct names throughout, and that every value in canonical form is one;
- the deletion of null members at every depth, and what is looked up after it.

Does not own: who takes a null member for a missing one.
-/

set_option autoImplicit false

namespace ChainTx.Json

/-! ## Distinct names throughout -/

mutual

/-- True if no object inside has two members of one name. -/
def isWellFormed : Json → Bool
  | .array elements => areWellFormed elements
  | .object members => decide (Distinct members) && holdWellFormed members
  | _ => true

/-- True if all elements of an array are well-formed. -/
def areWellFormed : List Json → Bool
  | [] => true
  | element :: rest => element.isWellFormed && areWellFormed rest

/-- True if all values of members are well-formed. -/
def holdWellFormed : List (String × Json) → Bool
  | [] => true
  | (_, value) :: rest => value.isWellFormed && holdWellFormed rest

end

variable {value found : Json} {name : String} {members : List (String × Json)}

private theorem holdWellFormed_iff :
    holdWellFormed members = true ↔ ∀ member ∈ members, member.2.isWellFormed = true := by
  induction members with
  | nil => simp [holdWellFormed]
  | cons member rest inductionHypothesis =>
      rw [holdWellFormed, Bool.and_eq_true, inductionHypothesis, List.forall_mem_cons]

/-- What is found in a well-formed object is well-formed. -/
theorem isWellFormed_of_get?
    (wellFormed : value.isWellFormed = true)
    (read : value.get? name = some found) :
    found.isWellFormed = true := by
  cases value with
  | object members =>
      rw [isWellFormed, Bool.and_eq_true, decide_eq_true_eq] at wellFormed
      have isIn : (name, found) ∈ members := (mem_iff_lookup wellFormed.1).mpr read
      exact holdWellFormed_iff.mp wellFormed.2 _ isIn
  | _ => cases read

/-! ## Canonical form -/

/-- The names come in order, each once. -/
def InOrder (members : List (String × Json)) : Prop :=
  members.Pairwise fun left right => left.1 < right.1

private theorem InOrder.distinct (inOrder : InOrder members) : Distinct members := by
  rw [Distinct, List.Nodup, List.pairwise_map]
  exact inOrder.imp fun before => ne_of_lt before

/-- What is in a list after a member was put into it. -/
theorem mem_of_mem_insertMember
    {member : String × Json}
    (isIn : member ∈ insertMember name value members) :
    member = (name, value) ∨ member ∈ members := by
  induction members with
  | nil => exact .inl (List.mem_singleton.mp isIn)
  | cons head rest inductionHypothesis =>
      obtain ⟨other, held⟩ := head
      rw [insertMember] at isIn
      split at isIn
      · exact List.mem_cons.mp isIn
      · split at isIn
        · exact (List.mem_cons.mp isIn).imp_right (List.mem_cons_of_mem _)
        · obtain isHead | later := List.mem_cons.mp isIn
          · exact .inr (isHead ▸ List.mem_cons_self)
          · exact (inductionHypothesis later).imp_right (List.mem_cons_of_mem _)

private theorem InOrder.insertMember
    (inOrder : InOrder members)
    (name : String)
    (value : Json) :
    InOrder (Json.insertMember name value members) := by
  induction members with
  | nil => exact List.pairwise_singleton _ _
  | cons head rest inductionHypothesis =>
      obtain ⟨other, held⟩ := head
      obtain ⟨headBefore, restInOrder⟩ := List.pairwise_cons.mp inOrder
      rw [Json.insertMember]
      split
      · rename_i before
        refine List.pairwise_cons.mpr ⟨fun member isIn => ?_, inOrder⟩
        obtain rfl | later := List.mem_cons.mp isIn
        · exact before
        · exact lt_trans before (headBefore member later)
      · rename_i notBefore
        split
        · rename_i same
          subst same
          exact List.pairwise_cons.mpr ⟨headBefore, restInOrder⟩
        · rename_i different
          have after : other < name := lt_of_le_of_ne (not_lt.mp notBefore) (Ne.symm different)
          refine List.pairwise_cons.mpr ⟨fun member isIn => ?_, inductionHypothesis restInOrder⟩
          obtain rfl | earlier := mem_of_mem_insertMember isIn
          · exact after
          · exact headBefore member earlier

mutual

/-- Values in canonical form are well-formed. -/
theorem isWellFormed_canonical : (value : Json) → value.canonical.isWellFormed = true
  | .null | .bool _ | .integer _ | .float _ | .string _ => rfl
  | .array elements => areWellFormed_canonicalElements elements
  | .object members => by
      obtain ⟨inOrder, wellFormed⟩ :=
        canonicalMembers_inOrder members [] List.Pairwise.nil (fun _ isIn => nomatch isIn)
      rw [canonical, isWellFormed, Bool.and_eq_true, decide_eq_true_eq, holdWellFormed_iff]
      exact ⟨inOrder.distinct, wellFormed⟩

private theorem areWellFormed_canonicalElements :
    (elements : List Json) → areWellFormed (canonicalElements elements) = true
  | [] => rfl
  | element :: rest => by
      rw [canonicalElements, areWellFormed, Bool.and_eq_true]
      exact ⟨isWellFormed_canonical element, areWellFormed_canonicalElements rest⟩

/-- Members added to a list in order, all well-formed, leave it so. -/
theorem canonicalMembers_inOrder :
    (members sorted : List (String × Json)) →
    InOrder sorted →
    (∀ member ∈ sorted, member.2.isWellFormed = true) →
    InOrder (canonicalMembers sorted members)
      ∧ ∀ member ∈ canonicalMembers sorted members, member.2.isWellFormed = true
  | [], _, inOrder, wellFormed => ⟨inOrder, wellFormed⟩
  | (name, value) :: rest, sorted, inOrder, wellFormed => by
      have valueWellFormed := isWellFormed_canonical value
      refine canonicalMembers_inOrder rest _ (inOrder.insertMember name value.canonical) ?_
      intro member isIn
      obtain rfl | before := mem_of_mem_insertMember isIn
      · exact valueWellFormed
      · exact wellFormed member before

end

/-- What is read from a text is well-formed. -/
theorem isWellFormed_of_read?
    {text : String}
    (read : Json.read? text = some value) :
    value.isWellFormed = true := by
  obtain ⟨raw, _, rfl⟩ := Option.map_eq_some_iff.mp read
  exact isWellFormed_canonical raw

/-! ## Deletion of null members -/

mutual

/-- The value without the null members of the objects in it. -/
def prune : Json → Json
  | .array elements => .array (pruneElements elements)
  | .object members => .object (pruneMembers members)
  | value => value

/-- The elements of an array, each without null members. -/
def pruneElements : List Json → List Json
  | [] => []
  | element :: rest => element.prune :: pruneElements rest

/-- The members that are not null, each without null members. -/
def pruneMembers : List (String × Json) → List (String × Json)
  | [] => []
  | (_, .null) :: rest => pruneMembers rest
  | (name, value) :: rest => (name, value.prune) :: pruneMembers rest

end

/-- The member of an object with a name, if it is there and not null. -/
def present? (name : String) (value : Json) : Option Json :=
  match value.get? name with
  | some .null => none
  | found => found

theorem present?_eq_none_iff :
    value.present? name = none ↔ value.get? name = none ∨ value.get? name = some .null := by
  unfold present?
  split <;> simp_all

theorem get?_of_present? (read : value.present? name = some found) :
    value.get? name = some found := by
  unfold present? at read
  split at read
  · cases read
  · exact read

theorem present?_of_isObject
    (read : value.get? name = some found)
    (isObject : found.isObject = true) :
    value.present? name = some found := by
  rw [present?, read]
  cases found with
  | null => cases isObject
  | _ => rfl

theorem ne_null_of_present? (read : value.present? name = some found) : found ≠ .null := by
  rintro rfl
  unfold present? at read
  split at read
  · cases read
  · rename_i notNull
    exact notNull read

@[simp]
theorem prune_eq_null_iff : value.prune = .null ↔ value = .null := by
  cases value <;> simp [prune]

@[simp]
theorem isObject_prune : value.prune.isObject = value.isObject := by
  cases value <;> rfl

@[simp]
theorem string?_prune : value.prune.string? = value.string? := by
  cases value <;> rfl

private theorem pruneMembers_cons
    (notNull : value ≠ .null) :
    pruneMembers ((name, value) :: members) = (name, value.prune) :: pruneMembers members := by
  cases value with
  | null => exact absurd rfl notNull
  | _ => rfl

/-- No member stays that was not there. -/
theorem lookup_pruneMembers_of_none (absent : members.lookup name = none) :
    (pruneMembers members).lookup name = none := by
  induction members with
  | nil => rfl
  | cons member rest inductionHypothesis =>
      obtain ⟨other, held⟩ := member
      rw [List.lookup_cons] at absent
      split at absent
      · cases absent
      · rename_i different
        by_cases isNull : held = .null
        · subst isNull
          exact inductionHypothesis absent
        · rw [pruneMembers_cons isNull, List.lookup_cons, different]
          exact inductionHypothesis absent

/-- Without distinct names, a null member could hide another one of its name. -/
theorem lookup_pruneMembers (distinct : Distinct members) :
    (pruneMembers members).lookup name = ((object members).present? name).map prune := by
  induction members with
  | nil => rfl
  | cons member rest inductionHypothesis =>
      obtain ⟨other, held⟩ := member
      obtain ⟨absent, restDistinct⟩ := List.nodup_cons.mp distinct
      by_cases same : name = other
      · subst same
        by_cases isNull : held = .null
        · subst isNull
          have none : rest.lookup name = none :=
            List.lookup_eq_none_iff.mpr fun member isIn => bne_iff_ne.mpr fun named =>
              absent (List.mem_map.mpr ⟨member, isIn, named.symm⟩)
          rw [pruneMembers, lookup_pruneMembers_of_none none, present?, get?, List.lookup_cons_self]
          rfl
        · have kept : (object ((name, held) :: rest)).present? name = some held := by
            rw [present?, get?, List.lookup_cons_self]
            split
            · rename_i found
              exact absurd (Option.some.inj found) isNull
            · rfl
          rw [pruneMembers_cons isNull, List.lookup_cons_self, kept, Option.map_some]
      · have different : (name == other) = false := beq_false_of_ne same
        have passedOver : (object ((other, held) :: rest)).present? name
            = (object rest).present? name := by
          rw [present?, present?, get?, get?, List.lookup_cons, different]
        rw [passedOver, ← inductionHypothesis restDistinct]
        by_cases isNull : held = .null
        · rw [isNull, pruneMembers]
        · rw [pruneMembers_cons isNull, List.lookup_cons, different]

/-- After the deletion, what is found under a name is what was there and not null. -/
theorem get?_prune (wellFormed : value.isWellFormed = true) :
    value.prune.get? name = (value.present? name).map prune := by
  cases value with
  | object members =>
      rw [isWellFormed, Bool.and_eq_true, decide_eq_true_eq] at wellFormed
      exact lookup_pruneMembers wellFormed.1
  | _ => rfl

theorem present?_prune (wellFormed : value.isWellFormed = true) :
    value.prune.present? name = (value.present? name).map prune := by
  rw [present?, get?_prune wellFormed]
  cases read : value.present? name with
  | none => rfl
  | some found =>
      split
      · rename_i isNull
        exact absurd (prune_eq_null_iff.mp (Option.some.inj isNull)) (ne_null_of_present? read)
      · rfl

/-- A text under a name is there as before: null is none. -/
theorem bind_string?_prune (wellFormed : value.isWellFormed = true) :
    (value.prune.get? name).bind string? = (value.get? name).bind string? := by
  rw [get?_prune wellFormed, Option.bind_map]
  unfold present?
  split
  · rename_i isNull
    rw [isNull]
    rfl
  · exact Option.bind_congr fun found _ => string?_prune

end ChainTx.Json
