import ChainTx.Json.Source

/-!
Contract: reading JSON texts.

Owns:
- shapes, which say which parts of a text are looked at;
- the value that a text has under a shape, with at most 127 levels of arrays and objects: every part
  that is looked at must have a value, and any other one only has to be well formed;
- the whole value of a text. `readRaw?` keeps repeated members in the order of the text; `read?` gives
  the canonical form.

Does not own: what a reader of an answer does about missing or repeated members.
-/

set_option autoImplicit false

namespace ChainTx.Json

/-- Which parts of a value are looked at. -/
inductive Shape where
  /-- None, only whether there is a value at all. -/
  | any
  /-- All. -/
  | whole
  /-- The members of a record, by name or by position. -/
  | record (members : List (String × Shape))

namespace Shape

/-- A record of members with these names, each of them whole. -/
def ofNames (names : List String) : Shape :=
  .record (names.map fun name => (name, .whole))

/-- The shape of a member of an object. -/
def member : Shape → String → Shape
  | .any, _ => .any
  | .whole, _ => .whole
  | .record known, name => (known.lookup name).getD .any

/-- The shape of an element of an array. -/
def element : Shape → Nat → Shape
  | .any, _ => .any
  | .whole, _ => .whole
  | .record known, index => (known[index]?.map Prod.snd).getD .any

end Shape

mutual

/-- The value under a shape, with so many levels at most. What is not looked at is null. -/
def Source.value? : Shape → Nat → Source → Option Json
  | .any, _, _ => some .null
  | _, _, .null => some .null
  | _, _, .bool value => some (.bool value)
  | _, _, .integer value => some (.integer value)
  | _, _, .float value => value.map .float
  | _, _, .text value => value.map .string
  | _, 0, .array _ => none
  | shape, levels + 1, .array elements => (elementValues? shape 0 levels elements).map .array
  | _, 0, .object _ => none
  | shape, levels + 1, .object members => (memberValues? shape levels members).map .object

def elementValues? (shape : Shape) (index levels : Nat) : List Source → Option (List Json)
  | [] => some []
  | element :: rest => do
      let value ← Source.value? (shape.element index) levels element
      let values ← elementValues? shape (index + 1) levels rest
      some (value :: values)

def memberValues? (shape : Shape) (levels : Nat) :
    List (Option String × Source) → Option (List (String × Json))
  | [] => some []
  | (name, source) :: rest => do
      let name ← name
      let value ← Source.value? (shape.member name) levels source
      let values ← memberValues? shape levels rest
      some ((name, value) :: values)

end

/-- How many levels of arrays and objects a text may nest. -/
def levelLimit : Nat := 127

/-- Reads the parts of a text that a shape looks at. -/
def readKnown? (shape : Shape) (text : String) : Option Json :=
  (Source.read? text).bind (Source.value? shape levelLimit)

/-- Reads a whole text, with the members of objects as they are written. -/
def readRaw? (text : String) : Option Json :=
  readKnown? .whole text

/-- Reads a whole text into canonical form. -/
def read? (text : String) : Option Json :=
  (readRaw? text).map canonical

end ChainTx.Json
