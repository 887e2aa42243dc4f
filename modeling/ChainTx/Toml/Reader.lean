import ChainTx.Toml.Scalar
import ChainTx.Toml.Text

/-!
Contract: the reader of TOML documents.

Owns:
- keys, bare and quoted, and dotted keys;
- values, with arrays over several lines and inline tables on one;
- lines, which are headers or keys with values, and documents.

Nesting is limited: fewer than 80 arrays and inline tables may stand inside each other, and a dotted
key has fewer than 80 parts.

Does not own: the rules on who may add to which table.
-/

set_option autoImplicit false

namespace ChainTx.Toml

/-- The limit on nesting and on the parts of a key. -/
def nestingLimit : Nat := 80

/-! ## Keys -/

/-- True of the characters of bare keys. -/
def isBare (char : Char) : Bool :=
  char.isAlphanum || char == '_' || char == '-'

def readKeyPart? (chars : List Char) : Option (String × List Char) :=
  match chars.span isBare with
  | ([], rest) => readQuoted? rest
  | (bare, rest) => some (String.ofList bare, rest)

/-- Reads the parts of a key, with spaces around each of them or not. -/
def readKeyParts? : Nat → List Char → Option (List String × List Char)
  | 0, _ => none
  | fuel + 1, chars => do
      let (part, rest) ← readKeyPart? (skipSpaces chars)
      match skipSpaces rest with
      | '.' :: rest => do
          let (parts, rest) ← readKeyParts? fuel rest
          some (part :: parts, rest)
      | rest => some ([part], rest)

/-- Reads a key: the parts before the last one, and the last one. -/
def readKey? (chars : List Char) : Option (List String × String × List Char) := do
  let (parts, rest) ← readKeyParts? (nestingLimit - 1) chars
  let last ← parts.getLast?
  some (parts.dropLast, last, rest)

/-! ## Values -/

/-- The brace that opens an inline table. -/
def openingBrace : Char := Char.ofNat 0x7B

/-- The brace that closes an inline table. -/
def closingBrace : Char := Char.ofNat 0x7D

mutual

/-- Reads a value; so many arrays and inline tables may still open. -/
def readValue? : Nat → Nat → List Char → Option (Item × List Char)
  | 0, _, _ => none
  | fuel + 1, depth, chars =>
      match chars, depth with
      | '[' :: rest, depth + 1 => readElements? fuel depth [] rest
      | '[' :: _, 0 => none
      | first :: rest, depth =>
          if first = openingBrace then
            match depth with
            | depth + 1 => readPairs? fuel depth [] rest
            | 0 => none
          else if first = '"' ∨ first = literalQuote then
            (readText? (first :: rest)).map fun (text, rest) => (.text text, rest)
          else readScalar? (first :: rest)
      | [], _ => none

/-- Reads the rest of an array behind its opening bracket or a comma; `read` holds the elements,
from the last to the first. -/
def readElements? : Nat → Nat → List Item → List Char → Option (Item × List Char)
  | 0, _, _, _ => none
  | fuel + 1, depth, read, chars =>
      match skipLines chars.length chars with
      | ']' :: rest => some (.array read.reverse, rest)
      | chars => do
          let (item, rest) ← readValue? fuel depth chars
          match skipLines rest.length rest with
          | ',' :: rest => readElements? fuel depth (item :: read) rest
          | ']' :: rest => some (.array (item :: read).reverse, rest)
          | _ => none

/-- Reads the rest of an inline table behind its opening brace or a comma. -/
def readPairs? : Nat → Nat → Members → List Char → Option (Item × List Char)
  | 0, _, _, _ => none
  | fuel + 1, depth, members, chars =>
      match if members.isEmpty then afterChar? closingBrace (skipSpaces chars) else none with
      | some rest => some (.inlineTable [], rest)
      | none => do
          let (path, key, rest) ← readKey? chars
          let rest ← afterChar? '=' rest
          let (item, rest) ← readValue? fuel depth (skipSpaces rest)
          let members ← Members.insert? item key path members
          match skipSpaces rest with
          | ',' :: rest => readPairs? fuel depth members rest
          | rest => (afterChar? closingBrace rest).map fun rest => (.inlineTable members, rest)

end

/-! ## Lines and documents -/

/-- What was read of a document: its members, and the path of the last header. -/
structure Document where
  members : Members
  header : List String
deriving Repr

namespace Document

/-- The document before the first line. -/
def empty : Document := ⟨[], []⟩

/-- Reads the line of a header behind its opening bracket. -/
def readHeader? (document : Document) (chars : List Char) : Option (Document × List Char) := do
  let (path, name, rest) ← readKey? chars
  let rest ← afterChar? ']' rest
  let members ← document.members.below? (Members.openTable? name) path
  some (⟨members, path ++ [name]⟩, rest)

/-- Reads the line of a header of an array of tables behind its opening brackets. -/
def readElementHeader? (document : Document) (chars : List Char) :
    Option (Document × List Char) := do
  let (path, name, rest) ← readKey? chars
  let rest ← afterChar? ']' (← afterChar? ']' rest)
  let members ← document.members.below? (Members.openElement? name) path
  some (⟨members, path ++ [name]⟩, rest)

/-- Reads the line of a key with its value, which goes below the last header. -/
def readPair? (document : Document) (chars : List Char) : Option (Document × List Char) := do
  let (path, key, rest) ← readKey? chars
  let rest := skipSpaces (← afterChar? '=' rest)
  let (item, rest) ← readValue? (2 * rest.length + 2) (nestingLimit - 1) rest
  let members ← document.members.below? (Members.insert? item key path) document.header
  some (⟨members, document.header⟩, rest)

/-- Reads a line that is neither empty nor a comment. -/
def readStatement? (document : Document) : List Char → Option (Document × List Char)
  | '[' :: '[' :: rest => document.readElementHeader? rest
  | '[' :: rest => document.readHeader? rest
  | chars => document.readPair? chars

def readLines? : Nat → Document → List Char → Option Document
  | 0, _, _ => none
  | _, document, [] => some document
  | fuel + 1, document, chars =>
      match endLine? chars with
      | some rest => readLines? fuel document rest
      | none => do
          let (document, rest) ← document.readStatement? (skipSpaces chars)
          let rest ← endLine? rest
          readLines? fuel document rest

end Document

def skipMark : List Char → List Char
  | char :: rest => if char.toNat = 0xFEFF then rest else char :: rest
  | [] => []

def read? (text : String) : Option Item :=
  let chars := skipMark text.toList
  (Document.empty.readLines? (chars.length + 1) chars).map fun document =>
    .table .header document.members

end ChainTx.Toml
