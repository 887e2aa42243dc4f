import ChainTx.Proofs.Json.Record
import ChainTx.Json.Reader

/-!
Contract: texts of which only a part is looked at.

Owns:
- what a shape leaves of a value, and that a text that can be read as a whole is read so under every
  shape;
- records under a shape, and readers to which a shape leaves all that they look at.

Does not own: texts that can be read under a shape only.
-/

set_option autoImplicit false

namespace ChainTx.Json

variable {α : Type} {shape : Shape} {levels : Nat} {name : String} {members : List (String × Json)}

/-! ## What a shape leaves -/

mutual

/-- What a shape leaves of a value. -/
def narrow : Shape → Json → Json
  | .any, _ => .null
  | shape, .array elements => .array (narrowElements shape 0 elements)
  | shape, .object members => .object (narrowMembers shape members)
  | _, value => value

def narrowElements (shape : Shape) (index : Nat) : List Json → List Json
  | [] => []
  | element :: rest =>
      narrow (shape.element index) element :: narrowElements shape (index + 1) rest

def narrowMembers (shape : Shape) : List (String × Json) → List (String × Json)
  | [] => []
  | (name, value) :: rest =>
      (name, narrow (shape.member name) value) :: narrowMembers shape rest

end

mutual

/-- The shape of everything leaves everything. -/
@[simp]
theorem narrow_whole :
    ∀ json : Json, narrow .whole json = json
  | .array elements => by rw [narrow, narrowElements_whole 0 elements]; nofun
  | .object members => by rw [narrow, narrowMembers_whole members]; nofun
  | .null => rfl
  | .bool _ => rfl
  | .integer _ => rfl
  | .float _ => rfl
  | .string _ => rfl

private theorem narrowElements_whole (index : Nat) :
    ∀ elements : List Json, narrowElements .whole index elements = elements
  | [] => rfl
  | element :: rest => by
      rw [narrowElements, Shape.element, narrow_whole element, narrowElements_whole (index + 1) rest]

private theorem narrowMembers_whole :
    ∀ members : List (String × Json), narrowMembers .whole members = members
  | [] => rfl
  | (name, value) :: rest => by
      rw [narrowMembers, Shape.member, narrow_whole value, narrowMembers_whole rest]

end

mutual

/-- A text with a whole value has the value under a shape that the shape leaves of it. -/
theorem Source.value?_of_whole (shape : Shape) :
    (source : Source) → (levels : Nat) → (json : Json) →
      source.value? .whole levels = some json → source.value? shape levels = some (narrow shape json)
  | .null, _, _, valued | .bool _, _, _, valued | .integer _, _, _, valued => by
      cases valued
      cases shape <;> rfl
  | .float _, _, _, valued | .text _, _, _, valued => by
      obtain ⟨found, rfl, rfl⟩ := Option.map_eq_some_iff.mp valued
      cases shape <;> rfl
  | .array _, 0, _, valued | .object _, 0, _, valued => by
      cases valued
  | .array elements, levels + 1, _, valued => by
      obtain ⟨found, allValued, rfl⟩ := Option.map_eq_some_iff.mp valued
      have values := elementValues?_of_whole shape elements 0 levels found allValued
      cases shape with
      | any => rfl
      | _ => exact congrArg (Option.map array) values
  | .object members, levels + 1, _, valued => by
      obtain ⟨found, allValued, rfl⟩ := Option.map_eq_some_iff.mp valued
      have values := memberValues?_of_whole shape members levels found allValued
      cases shape with
      | any => rfl
      | _ => exact congrArg (Option.map object) values

private theorem elementValues?_of_whole (shape : Shape) :
    (sources : List Source) → (index levels : Nat) → (elements : List Json) →
      elementValues? .whole index levels sources = some elements →
        elementValues? shape index levels sources = some (narrowElements shape index elements)
  | [], _, _, _, valued => by
      cases valued
      rfl
  | source :: rest, index, levels, _, valued => by
      simp only [elementValues?, Option.bind_eq_bind, Option.bind_eq_some_iff, Option.some.injEq]
        at valued
      obtain ⟨first, firstValued, others, restValued, rfl⟩ := valued
      rw [elementValues?, source.value?_of_whole _ levels first firstValued,
        elementValues?_of_whole shape rest (index + 1) levels others restValued]
      rfl

private theorem memberValues?_of_whole (shape : Shape) :
    (sources : List (Option String × Source)) → (levels : Nat) → (members : List (String × Json)) →
      memberValues? .whole levels sources = some members →
        memberValues? shape levels sources = some (narrowMembers shape members)
  | [], _, _, valued => by
      cases valued
      rfl
  | (name, source) :: rest, levels, _, valued => by
      simp only [memberValues?, Option.bind_eq_bind, Option.bind_eq_some_iff, Option.some.injEq]
        at valued
      obtain ⟨known, rfl, first, firstValued, others, restValued, rfl⟩ := valued
      simp only [memberValues?, Option.bind_eq_bind, Option.bind_some,
        source.value?_of_whole _ levels first firstValued,
        memberValues?_of_whole shape rest levels others restValued, narrowMembers]

end

/-- A text that can be read as a whole can be read under every shape. -/
theorem readKnown?_of_readRaw?
    {text : String}
    {json : Json}
    (shape : Shape)
    (read : readRaw? text = some json) :
    readKnown? shape text = some (narrow shape json) := by
  obtain ⟨source, sourceRead, valued⟩ := Option.bind_eq_some_iff.mp read
  rw [readKnown?, sourceRead]
  exact source.value?_of_whole shape levelLimit json valued

/-! ## Null under a shape -/

/-- What is looked at is null if the text says so. -/
theorem Source.eq_null_iff_of_value?
    {source : Source}
    {json : Json}
    (notAny : shape ≠ .any)
    (valued : source.value? shape levels = some json) :
    json = .null ↔ source = .null := by
  unfold Source.value? at valued
  split at valued
  · exact absurd rfl notAny
  · cases valued
    simp
  · cases valued
    simp
  · cases valued
    simp
  · obtain ⟨_, _, rfl⟩ := Option.map_eq_some_iff.mp valued
    simp
  · obtain ⟨_, _, rfl⟩ := Option.map_eq_some_iff.mp valued
    simp
  · cases valued
  · obtain ⟨_, _, rfl⟩ := Option.map_eq_some_iff.mp valued
    simp
  · cases valued
  · obtain ⟨_, _, rfl⟩ := Option.map_eq_some_iff.mp valued
    simp

/-- A member that is looked at is there and not null if it is so in the text. -/
theorem exists_member_of_memberValues?
    {sources : List (Option String × Source)}
    (notAny : shape.member name ≠ .any)
    (valued : memberValues? shape levels sources = some members) :
    (∃ value, (name, value) ∈ members ∧ value ≠ .null)
      ↔ ∃ source, (some name, source) ∈ sources ∧ source ≠ .null := by
  induction sources generalizing members with
  | nil =>
      cases valued
      simp
  | cons source rest inductionHypothesis =>
      obtain ⟨called, source⟩ := source
      simp only [memberValues?, Option.bind_eq_bind, Option.bind_eq_some_iff, Option.some.injEq]
        at valued
      obtain ⟨other, rfl, first, firstValued, others, restValued, rfl⟩ := valued
      have later := inductionHypothesis restValued
      by_cases same : other = name
      · subst same
        have null := Source.eq_null_iff_of_value? notAny firstValued
        simp only [List.mem_cons, Prod.mk.injEq, true_and, or_and_right, exists_or, exists_eq_left,
          later, null, ne_eq]
      · have differs : name ≠ other := Ne.symm same
        simp only [List.mem_cons, Prod.mk.injEq, Option.some.injEq, differs, false_and, false_or,
          later]

/-! ## Records under a shape -/

theorem narrow_record_object
    (known : List (String × Shape))
    (members : List (String × Json)) :
    narrow (.record known) (.object members) = .object (narrowMembers (.record known) members) :=
  rfl

private theorem map_fst_narrowMembers (members : List (String × Json)) :
    (narrowMembers shape members).map Prod.fst = members.map Prod.fst := by
  induction members with
  | nil => rfl
  | cons member rest inductionHypothesis =>
      rw [narrowMembers, List.map_cons, List.map_cons, inductionHypothesis]

theorem Distinct.narrowMembers (distinct : Distinct members) :
    Distinct (narrowMembers shape members) := by
  rw [Distinct, map_fst_narrowMembers]
  exact distinct

theorem lookup_narrowMembers (members : List (String × Json)) :
    (narrowMembers shape members).lookup name
      = (members.lookup name).map (narrow (shape.member name)) := by
  induction members with
  | nil => rfl
  | cons member rest inductionHypothesis =>
      obtain ⟨other, value⟩ := member
      rw [Json.narrowMembers, List.lookup_cons, List.lookup_cons]
      cases same : name == other with
      | true => rw [eq_of_beq same]; rfl
      | false => exact inductionHypothesis

/-- A member that a shape leaves whole is read as it is without the shape. -/
theorem single?_narrowMembers
    (whole : shape.member name = .whole)
    (members : List (String × Json)) :
    single? name (narrowMembers shape members) = single? name members := by
  have kept : (narrowMembers shape members).filter (fun member => member.1 == name)
      = members.filter fun member => member.1 == name := by
    induction members with
    | nil => rfl
    | cons member rest inductionHypothesis =>
        obtain ⟨other, value⟩ := member
        rw [Json.narrowMembers, List.filter_cons, List.filter_cons, inductionHypothesis]
        cases same : other == name with
        | true => rw [eq_of_beq same, whole, narrow_whole]
        | false => rfl
  rw [single?, kept, single?]

private theorem length_narrowElements (index : Nat) (elements : List Json) :
    (narrowElements shape index elements).length = elements.length := by
  induction elements generalizing index with
  | nil => rfl
  | cons element rest inductionHypothesis =>
      rw [narrowElements, List.length_cons, List.length_cons, inductionHypothesis]

/-- Elements that a shape leaves whole stay as they are. -/
theorem narrowElements_of_whole
    {index : Nat}
    {elements : List Json}
    (whole : ∀ place < elements.length, shape.element (index + place) = .whole) :
    narrowElements shape index elements = elements := by
  induction elements generalizing index with
  | nil => rfl
  | cons element rest inductionHypothesis =>
      have first : shape.element index = .whole := whole 0 (Nat.zero_lt_succ _)
      rw [narrowElements, first, narrow_whole, inductionHypothesis]
      intro place below
      have later := whole (place + 1) (Nat.succ_lt_succ below)
      rwa [Nat.add_right_comm, Nat.add_assoc]

private theorem Shape.member_ofNames
    {names : List String}
    (known : name ∈ names) :
    (ofNames names).member name = .whole := by
  have found : (names.map fun name => (name, Shape.whole)).lookup name = some .whole := by
    induction names with
    | nil => cases known
    | cons first rest inductionHypothesis =>
        rw [List.map_cons, List.lookup_cons]
        cases same : name == first with
        | true => rfl
        | false =>
            have later : name ∈ rest :=
              (List.mem_cons.mp known).resolve_left (ne_of_beq_false same)
            exact inductionHypothesis later
  rw [ofNames, member, found, Option.getD_some]

private theorem Shape.element_ofNames
    {names : List String}
    {index : Nat}
    (below : index < names.length) :
    (ofNames names).element index = .whole := by
  rw [ofNames, element, List.getElem?_map, List.getElem?_eq_getElem below]
  rfl

/-- A record is read alike with and without the shape of its names. -/
theorem record?_narrow
    (names : List String)
    (least : Nat)
    (json : Json) :
    record? names least (narrow (.ofNames names) json) = record? names least json := by
  cases json with
  | array elements =>
      show positional? names least (narrowElements (.ofNames names) 0 elements) = _
      by_cases fits : elements.length ≤ names.length
      · rw [narrowElements_of_whole]
        · rfl
        · intro place below
          rw [Nat.zero_add]
          exact Shape.element_ofNames (by omega)
      · rw [positional?, length_narrowElements, if_neg fun bounds => fits bounds.2, record?,
          positional?, if_neg fun bounds => fits bounds.2]
  | object members =>
      have alike : ∀ asked ⊆ names,
          (asked.mapM fun name => single? name (narrowMembers (.ofNames names) members))
            = asked.mapM fun name => single? name members := by
        intro asked known
        induction asked with
        | nil => rfl
        | cons name rest inductionHypothesis =>
            obtain ⟨first, others⟩ := List.cons_subset.mp known
            rw [List.mapM_cons, List.mapM_cons, inductionHypothesis others,
              single?_narrowMembers (Shape.member_ofNames first)]
      exact alike names (List.Subset.refl names)
  | _ => rfl

/-! ## Readers under a shape -/

/-- A shape leaves a reader all that it looks at. -/
structure Shape.Keeps (shape : Shape) (read : Json → Option α) : Prop where
  notAny : shape ≠ .any
  same : ∀ json, read (narrow shape json) = read json

theorem Shape.Keeps.whole (read : Json → Option α) :
    Keeps .whole read :=
  ⟨nofun, fun json => congrArg read (narrow_whole json)⟩

/-- A member that may be missing or null is read alike with and without the shape. -/
theorem optional?_narrow
    {read : Json → Option α}
    (keeps : shape.Keeps read)
    (found : Option Json) :
    optional? read (found.map (narrow shape)) = optional? read found := by
  have same := keeps.same
  cases shape with
  | any => exact absurd rfl keeps.notAny
  | _ =>
      cases found with
      | none => rfl
      | some json =>
          cases json with
          | null => rfl
          | _ => exact congrArg (Option.map some) (same _)

end ChainTx.Json
