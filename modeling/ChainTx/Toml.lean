/-!
Contract: TOML documents as trees of items.

Owns:
- items: values, tables and arrays of tables;
- where a table came from, which decides who may still add to it;
- the three ways in which a document grows: a key with a value below dotted keys, the header of a
  table, and the header of one more table in an array of tables.

No name is ever given twice. A table that has had its header, and an inline table, are closed to
dotted keys from outside; a table that only its subtables have named so far may still get its
header.

Does not own: the reading of texts.
-/

set_option autoImplicit false

namespace ChainTx.Toml

inductive TableOrigin where
  | header
  /-- The headers of its subtables only. -/
  | implied
  | dotted
deriving DecidableEq, Repr

/-- What a name stands for. Points in time and floating-point numbers are told apart from other
values, but they are not kept. -/
inductive Item where
  | text (value : String)
  | integer (value : Int)
  | float
  | bool (value : Bool)
  | time
  | array (elements : List Item)
  | inlineTable (members : List (String × Item))
  | table (origin : TableOrigin) (members : List (String × Item))
  /-- An array of tables: the last of them, and the earlier ones from the last to the first. -/
  | tables (last : List (String × Item)) (earlier : List (List (String × Item)))
deriving Inhabited, Repr

/-- The members of a table, in order of their first appearances. -/
abbrev Members := List (String × Item)

namespace Members

/-- Changes what one name stands for, or what becomes of it where it stands for nothing yet. -/
def alter? (name : String) (change : Option Item → Option Item) : Members → Option Members
  | [] => (change none).map fun item => [(name, item)]
  | (other, item) :: rest =>
      if other = name then (change (some item)).map fun item => (name, item) :: rest
      else (alter? name change rest).map ((other, item) :: ·)

/-- Changes the table that a path of headers leads to. Tables on the way are made where they are
missing, and an array of tables leads to the last of them. -/
def below? (change : Members → Option Members) : List String → Members → Option Members
  | [], members => change members
  | name :: path, members =>
      alter? name (fun
        | none => (below? change path []).map (.table .implied)
        | some (.table origin inner) => (below? change path inner).map (.table origin)
        | some (.tables last earlier) => (below? change path last).map (.tables · earlier)
        | some _ => none) members

/-- Adds a value below dotted keys. The table that it goes into must itself come from dotted keys,
unless it is the one that the path starts from. -/
def insert? (value : Item) (key : String) : List String → Members → Option Members
  | [], members => alter? key (fun
      | none => some value
      | some _ => none) members
  | name :: path, members =>
      alter? name (fun
        | none => (insert? value key path []).map (.table .dotted)
        | some (.table .dotted inner) => (insert? value key path inner).map (.table .dotted)
        | some (.table .implied inner) =>
            if path = [] then none
            else (insert? value key path inner).map (.table .implied)
        | some (.tables last earlier) =>
            if path = [] then none
            else (insert? value key path last).map (.tables · earlier)
        | some _ => none) members

/-- The header of a table, in the table above it. -/
def openTable? (name : String) (members : Members) : Option Members :=
  alter? name (fun
    | none => some (.table .header [])
    | some (.table .implied inner) => some (.table .header inner)
    | some _ => none) members

/-- The header of one more table in an array of tables, in the table above it. -/
def openElement? (name : String) (members : Members) : Option Members :=
  alter? name (fun
    | none => some (.tables [] [])
    | some (.tables last earlier) => some (.tables [] (last :: earlier))
    | some _ => none) members

end Members

namespace Item

/-- The first elements of a list, so many of them, with nothing in place of missing ones. -/
def firstElements (count : Nat) (elements : List Item) : List (Option Item) :=
  (elements.take count).map some ++ List.replicate (count - elements.length) none

/-- The members of a record, by their names. A list gives them by position, and a point in time has
none of them. -/
def record? (names : List String) : Item → Option (List (Option Item))
  | .inlineTable members => some (names.map fun name => members.lookup name)
  | .table _ members => some (names.map fun name => members.lookup name)
  | .time => some (names.map fun _ => none)
  | .array elements => some (firstElements names.length elements)
  | .tables last earlier =>
      some (firstElements names.length ((last :: earlier).reverse.map (.table .header)))
  | _ => none

def text? : Item → Option String
  | .text value => some value
  | _ => none

/-- A whole number from 0 to `2 ^ 64 - 1`. -/
def uint64? : Item → Option UInt64
  | .integer value =>
      if 0 ≤ value ∧ value < 2 ^ 64 then some (UInt64.ofNat value.toNat) else none
  | _ => none

def bool? : Item → Option Bool
  | .bool value => some value
  | _ => none

/-- True of tables and lists without contents. -/
def isEmptyContainer : Item → Bool
  | .array [] => true
  | .inlineTable [] => true
  | .table _ [] => true
  | _ => false

/-- One of several words: a text, or a table with one member, named by the word and empty. -/
def word? : Item → Option String
  | .text value => some value
  | .inlineTable [(name, item)] => if item.isEmptyContainer then some name else none
  | .table _ [(name, item)] => if item.isEmptyContainer then some name else none
  | _ => none

end Item

end ChainTx.Toml
