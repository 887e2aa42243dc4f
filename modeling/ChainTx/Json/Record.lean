import ChainTx.Json

/-!
Contract: records in JSON, whose members are known by name.

Owns: the members of a record in order of their names. An object may hold members that the record
does not know, but none of the known ones twice; an array gives the members by position, from the
first on.

Does not own: the types of members.
-/

set_option autoImplicit false

namespace ChainTx.Json

/-- The only member of a name, or none; a name that comes twice is refused. -/
def single? (name : String) (members : List (String × Json)) : Option (Option Json) :=
  match members.filter fun member => member.1 == name with
  | [] => some none
  | [member] => some (some member.2)
  | _ => none

/-- The elements of an array as members of a record, the missing ones at the end. -/
def positional? (names : List String) (least : Nat) (elements : List Json) :
    Option (List (Option Json)) :=
  if least ≤ elements.length ∧ elements.length ≤ names.length then
    some (elements.map some ++ List.replicate (names.length - elements.length) none)
  else none

/-- The members of a record. An array must hold at least so many of them. -/
def record? (names : List String) (least : Nat) : Json → Option (List (Option Json))
  | .object members => names.mapM fun name => single? name members
  | .array elements => positional? names least elements
  | _ => none

/-- A member that may be missing or null. -/
def optional? {α : Type} (read : Json → Option α) : Option Json → Option (Option α)
  | none => some none
  | some .null => some none
  | some value => (read value).map some

/-- A member that stands for a default when it is missing. -/
def defaulted? {α : Type} (read : Json → Option α) (default : α) : Option Json → Option α
  | none => some default
  | some value => read value

def required? {α : Type} (read : Json → Option α) : Option Json → Option α
  | none => none
  | some value => read value

/-- A whole number of 64 bits with a sign. -/
def int64? : Json → Option Int64
  | .integer value =>
      if -2 ^ 63 ≤ value ∧ value < 2 ^ 63 then some (Int64.ofInt value) else none
  | _ => none

def bool? : Json → Option Bool
  | .bool value => some value
  | _ => none

end ChainTx.Json
