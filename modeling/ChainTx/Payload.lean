import ChainTx.Error
import ChainTx.Json
import ChainTx.Text.Blank

/-!
Contract: the fields of a payload.

Owns: payload objects and the readers of single fields, which name the field that they refuse.

Does not own: which fields a payload has.
-/

set_option autoImplicit false

namespace ChainTx

structure Payload where
  members : List (String × Json)
deriving Repr

namespace Payload

def ofJson : Json → Except TxError Payload
  | .object members => .ok ⟨members⟩
  | _ => .error (.validation "payload" .notObject)

/-- The member of a name; a null member counts as missing. -/
def member? (payload : Payload) (field : String) : Option Json :=
  match payload.members.lookup field with
  | some .null => none
  | found => found

/-- A text that is not blank. -/
def requiredText (payload : Payload) (field : String) : Except TxError String :=
  match payload.member? field with
  | none => .error (.validation field .missing)
  | some (.string text) =>
      if Blank.isBlankText text then .error (.validation field .missing) else .ok text
  | some _ => .error (.validation field .notString)

/-- A text, if there is one; the empty text counts as none. -/
def optionalText (payload : Payload) (field : String) : Except TxError (Option String) :=
  match payload.member? field with
  | none => .ok none
  | some (.string text) => if text.isEmpty then .ok none else .ok (some text)
  | some _ => .error (.validation field .notString)

/-- A number of 64 bits, as a JSON number or as decimal text. -/
def requiredUInt64 (payload : Payload) (field : String) : Except TxError UInt64 :=
  let invalid : Except TxError UInt64 := .error (.validation field .notUInt64)
  match payload.member? field with
  | none => .error (.validation field .missing)
  | some (.integer number) =>
      match (Json.integer number).uint64? with
      | some word => .ok word
      | none => invalid
  | some (.string text) =>
      match Decimal.uint64? (Blank.trimChars text.toList) with
      | some word => .ok word
      | none => invalid
  | some _ => invalid

end Payload

end ChainTx
