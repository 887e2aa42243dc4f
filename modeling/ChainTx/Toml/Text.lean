import ChainTx.Bytes.Hex

/-!
Contract: texts, comments and blanks in TOML documents.

Owns:
- blanks, line breaks and comments;
- the four written forms of a text: basic and literal, each on one line or on several.

A reader takes its text from the front of the characters and returns what follows.

Does not own: keys and values.
-/

set_option autoImplicit false

namespace ChainTx.Toml

/-! ## Between the tokens -/

def isSpace (char : Char) : Bool :=
  char == ' ' || char == '\t'

def skipSpaces (chars : List Char) : List Char :=
  chars.dropWhile isSpace

def afterBreak? : List Char → Option (List Char)
  | '\n' :: rest => some rest
  | '\r' :: '\n' :: rest => some rest
  | _ => none

/-- True of tabs and of everything that is no control character. -/
def isPlain (char : Char) : Bool :=
  char == '\t' || (0x20 ≤ char.toNat && char.toNat != 0x7F)

/-- Drops a comment, if there is one; the line break stays. -/
def skipComment : List Char → List Char
  | '#' :: rest => rest.dropWhile isPlain
  | chars => chars

/-- Drops what may end a line: spaces, a comment, and the line break or the end of the document. -/
def endLine? (chars : List Char) : Option (List Char) :=
  match skipComment (skipSpaces chars) with
  | [] => some []
  | rest => afterBreak? rest

/-- Drops spaces, comments and line breaks. The comment at the end of a document stays. -/
def skipLines : Nat → List Char → List Char
  | 0, chars => chars
  | fuel + 1, chars =>
      match afterBreak? (skipComment (skipSpaces chars)) with
      | some rest => skipLines fuel rest
      | none => skipSpaces chars

/-! ## Texts on one line -/

/-- The character that so many hexadecimal digits spell. -/
def readCodePoint? (count : Nat) (chars : List Char) : Option (Char × List Char) :=
  let digits := chars.take count
  let point := digits.foldl (fun prior digit => 16 * prior + (Hex.digitValue? digit).getD 0) 0
  if digits.length = count ∧ digits.all Hex.isDigit ∧ point.isValidChar then
    some (Char.ofNat point, chars.drop count)
  else none

def readEscape? : List Char → Option (Char × List Char)
  | '"' :: rest => some ('"', rest)
  | '\\' :: rest => some ('\\', rest)
  | 'b' :: rest => some (Char.ofNat 8, rest)
  | 'f' :: rest => some (Char.ofNat 12, rest)
  | 'n' :: rest => some ('\n', rest)
  | 'r' :: rest => some ('\r', rest)
  | 't' :: rest => some ('\t', rest)
  | 'u' :: rest => readCodePoint? 4 rest
  | 'U' :: rest => readCodePoint? 8 rest
  | _ => none

/-- Reads a basic text behind its opening quote; `read` holds what was read, from the last
character to the first. -/
def readBasic? : Nat → List Char → List Char → Option (String × List Char)
  | 0, _, _ => none
  | _, _, [] => none
  | _ + 1, read, '"' :: rest => some (String.ofList read.reverse, rest)
  | fuel + 1, read, '\\' :: rest => do
      let (char, rest) ← readEscape? rest
      readBasic? fuel (char :: read) rest
  | fuel + 1, read, char :: rest =>
      if isPlain char then readBasic? fuel (char :: read) rest else none

def literalQuote : Char := Char.ofNat 39

/-- True of what may stand in a literal text. -/
def isLiteral (char : Char) : Bool :=
  isPlain char && char != literalQuote

/-- Reads a literal text behind its opening quote. -/
def readLiteral? (chars : List Char) : Option (String × List Char) :=
  match chars.span isLiteral with
  | (read, quote :: rest) =>
      if quote = literalQuote then some (String.ofList read, rest) else none
  | _ => none

/-! ## Texts on several lines -/

/-- What follows three quotes of a kind. -/
def afterQuotes? (quote : Char) : List Char → Option (List Char)
  | first :: second :: third :: rest =>
      if first = quote ∧ second = quote ∧ third = quote then some rest else none
  | _ => none

/-- Closes a text behind its three quotes. Up to two more quotes belong to the text. -/
def closeLines (quote : Char) (read rest : List Char) : String × List Char :=
  let more := (rest.take 2).takeWhile (· == quote)
  (String.ofList (more ++ read).reverse, rest.drop more.length)

/-- Drops the line break right behind the opening quotes. -/
def skipFirstBreak (chars : List Char) : List Char :=
  (afterBreak? chars).getD chars

/-- What follows a backslash at the end of a line: the next character that is neither space nor line
break. -/
def afterLineEnd? (chars : List Char) : Option (List Char) :=
  (afterBreak? (skipSpaces chars)).map fun rest => skipBreaks rest.length rest
where
  skipBreaks : Nat → List Char → List Char
    | 0, chars => skipSpaces chars
    | fuel + 1, chars =>
        match afterBreak? (skipSpaces chars) with
        | some rest => skipBreaks fuel rest
        | none => skipSpaces chars

/-- Reads a text on several lines behind its opening quotes; only a basic one has escapes. -/
def readLines? (quote : Char) (escapes : Bool) :
    Nat → List Char → List Char → Option (String × List Char)
  | 0, _, _ => none
  | _, _, [] => none
  | fuel + 1, read, char :: rest =>
      match afterQuotes? quote (char :: rest) with
      | some rest => some (closeLines quote read rest)
      | none =>
          match afterBreak? (char :: rest) with
          | some rest => readLines? quote escapes fuel ('\n' :: read) rest
          | none =>
              if escapes ∧ char = '\\' then
                match afterLineEnd? rest with
                | some rest => readLines? quote escapes fuel read rest
                | none =>
                    (readEscape? rest).bind fun (char, rest) =>
                      readLines? quote escapes fuel (char :: read) rest
              else if isPlain char then readLines? quote escapes fuel (char :: read) rest
              else none

/-! ## Texts of any form -/

/-- Reads a text on one line, opening quote included. -/
def readQuoted? : List Char → Option (String × List Char)
  | '"' :: rest => readBasic? (rest.length + 1) [] rest
  | quote :: rest => if quote = literalQuote then readLiteral? rest else none
  | [] => none

/-- Reads a text of any form, opening quotes included. -/
def readText? (chars : List Char) : Option (String × List Char) :=
  match afterQuotes? '"' chars with
  | some rest => readLines? '"' true (rest.length + 1) [] (skipFirstBreak rest)
  | none =>
      match afterQuotes? literalQuote chars with
      | some rest => readLines? literalQuote false (rest.length + 1) [] (skipFirstBreak rest)
      | none => readQuoted? chars

end ChainTx.Toml
