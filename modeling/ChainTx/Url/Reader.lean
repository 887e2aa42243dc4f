import ChainTx.Url

/-!
Contract: reading URLs.

Owns: the reader of absolute URLs. It drops blanks and controls at the ends and all tabs and line
breaks, lower-cases the scheme, tells the special schemes from the others, and brings every part into
normal form: dot segments of a path are resolved, a backslash is a slash in special schemes, the
default port is dropped.

Does not own: relative references; without a scheme a text is refused.
-/

set_option autoImplicit false

namespace ChainTx.Url

/-- The families of schemes that are read differently. -/
inductive SchemeKind where
  | file
  /-- A scheme with hosts, paths from the root and a port of its own. -/
  | special (port : Nat)
  | other
deriving DecidableEq, Repr

def SchemeKind.ofScheme (scheme : List Char) : SchemeKind :=
  if scheme = "file".toList then .file
  else if scheme = "http".toList ∨ scheme = "ws".toList then .special 80
  else if scheme = "https".toList ∨ scheme = "wss".toList then .special 443
  else if scheme = "ftp".toList then .special 21
  else .other

/-- True of the families in which a backslash is a slash. -/
def SchemeKind.isSpecial : SchemeKind → Bool
  | .other => false
  | _ => true

/-- Drops controls and spaces at both ends, and tabs and line breaks everywhere. -/
def cleaned (text : List Char) : List Char :=
  let isEdge (char : Char) : Bool := char.toNat ≤ 0x20
  let trimmed := ((text.dropWhile isEdge).reverse.dropWhile isEdge).reverse
  trimmed.filter fun char => char != '\t' && char != '\n' && char != '\r'

/-- Characters of a scheme after the first letter. -/
def isSchemeChar (char : Char) : Bool :=
  char.isAlphanum || char == '+' || char == '-' || char == '.'

/-- The lower-case scheme and the text behind its colon. -/
def splitScheme (text : List Char) : Option (List Char × List Char) :=
  match text.span isSchemeChar with
  | (first :: rest, ':' :: remaining) =>
      if first.isAlpha then some ((first :: rest).map Char.toLower, remaining) else none
  | _ => none

/-! ## Path, query and fragment -/

/-- True of the segments that name the current level. -/
def isSingleDot (segment : List Char) : Bool :=
  segment == ['.'] || segment.map Char.toLower == ['%', '2', 'e']

/-- True of the segments that name the level above. -/
def isDoubleDot (segment : List Char) : Bool :=
  let lower := segment.map Char.toLower
  lower == ['.', '.'] || lower == ['.', '%', '2', 'e'] || lower == ['%', '2', 'e', '.']
    || lower == ['%', '2', 'e', '%', '2', 'e']

/-- True of a drive letter, which no dot segment removes. -/
def isDriveLetter : List Char → Bool
  | [letter, mark] => letter.isAlpha && (mark == ':' || mark == '|')
  | _ => false

/-- Removes the last segment of a reversed path. -/
def dropLastSegment : List (List Char) → List (List Char)
  | [] => []
  | segment :: rest => if isDriveLetter segment then segment :: rest else rest

/-- Resolves dot segments; the first argument holds the path so far, last segment first. -/
def resolveDots : List (List Char) → List (List Char) → List (List Char)
  | resolved, [] => resolved.reverse
  | resolved, [segment] =>
      if isDoubleDot segment then ([] :: dropLastSegment resolved).reverse
      else if isSingleDot segment then ([] :: resolved).reverse
      else (segment :: resolved).reverse
  | resolved, segment :: rest =>
      if isDoubleDot segment then resolveDots (dropLastSegment resolved) rest
      else if isSingleDot segment then resolveDots resolved rest
      else resolveDots (segment :: resolved) rest

/-- The path from the root that a text spells in a family of schemes. -/
def readPath (kind : SchemeKind) (text : List Char) : List Char :=
  let slashed := if kind.isSpecial then text.map fun char => if char = '\\' then '/' else char
    else text
  let behindRoot := match slashed with
    | '/' :: rest => rest
    | rest => rest
  let segments := (splitOnChar '/' behindRoot).map (Percent.encode Percent.inPathSet)
  (resolveDots [] segments).flatMap fun segment => '/' :: segment

/-- Cuts off the fragment, which starts at the first number sign. -/
def splitFragment (text : List Char) : List Char × Option (List Char) :=
  match text.span (· != '#') with
  | (before, _ :: fragment) => (before, some (Percent.encode Percent.inFragmentSet fragment))
  | (before, []) => (before, none)

/-- Cuts off the query, which starts at the first question mark. -/
def splitQuery (text : List Char) : List Char × Option (List Char) :=
  match text.span (· != '?') with
  | (before, _ :: query) => (before, some (Percent.encode Percent.inQuerySet query))
  | (before, []) => (before, none)

/-! ## Authority -/

/-- True of the characters that end an authority. -/
def endsAuthority (kind : SchemeKind) (char : Char) : Bool :=
  char == '/' || char == '?' || char == '#' || (kind.isSpecial && char == '\\')

/-- The texts before and after the last at sign; without one there is nothing before. -/
def splitLastAt (text : List Char) : Option (List Char) × List Char :=
  match text.reverse.span (· != '@') with
  | (_, []) => (none, text)
  | (after, _ :: before) => (some before.reverse, after.reverse)

/-- User name and password, parted by the first colon. -/
def readCredentials (text : List Char) : List Char × List Char :=
  let (username, rest) := text.span (· != ':')
  (Percent.encode Percent.inUserinfoSet username,
    Percent.encode Percent.inUserinfoSet rest.tail)

/-- The text up to the first colon outside brackets, and the rest. -/
def splitHost : Bool → List Char → List Char × List Char
  | _, [] => ([], [])
  | inBrackets, char :: rest =>
      if char = ':' ∧ !inBrackets then ([], char :: rest)
      else
        let inside := if char = '[' then true else if char = ']' then false else inBrackets
        let (host, remaining) := splitHost inside rest
        (char :: host, remaining)

/-- Reads the digits of a port; an empty text and the default port mean none. -/
def readPort (standard : Option Nat) (text : List Char) : Except Fault (Option Nat) :=
  if !text.all Char.isDigit then .error .invalidPort
  else
    let value := Decimal.value text
    if 65535 < value then .error .invalidPort
    else .ok (if text.isEmpty ∨ some value = standard then none else some value)

/-- Reads host and port of an authority. -/
def readHostPort (kind : SchemeKind) (text : List Char) : Except Fault (Host × Option Nat) := do
  let (hostText, portText) := splitHost false text
  if kind.isSpecial ∧ hostText.isEmpty then .error .emptyHost
  else
    let host ← if kind.isSpecial then Host.read hostText else Host.readOpaque hostText
    match portText with
    | [] => .ok (host, none)
    | _ :: digits =>
        if host = .name [] then .error .emptyHost
        else
          let standard := match kind with
            | .special port => some port
            | _ => none
          let port ← readPort standard digits
          .ok (host, port)

/-- Reads an authority. Nothing may stand before an at sign when a host follows, or when the text
ends there. -/
def readAuthority (kind : SchemeKind) (text : List Char) (isLast : Bool) :
    Except Fault Authority := do
  let (credentialText, hostText) := splitLastAt text
  match credentialText with
  | none =>
      let (host, port) ← readHostPort kind hostText
      .ok ⟨[], [], host, port⟩
  | some credentials =>
      if hostText.isEmpty ∧ credentials.isEmpty ∧ !isLast then .error .emptyHost
      else
        let (username, password) := readCredentials credentials
        let (host, port) ← readHostPort kind hostText
        if host = .name [] ∧ !(username.isEmpty && password.isEmpty) then .error .emptyHost
        else .ok ⟨username, password, host, port⟩

/-! ## Whole texts -/

/-- Reads what follows the two slashes before an authority. -/
def readHierarchical (scheme : List Char) (kind : SchemeKind) (text : List Char) :
    Except Fault Url := do
  let (authorityText, remaining) := text.span fun char => !endsAuthority kind char
  let authority ← readAuthority kind authorityText remaining.isEmpty
  let (beforeFragment, fragment) := splitFragment remaining
  let (pathText, query) := splitQuery beforeFragment
  let path := if pathText.isEmpty && !kind.isSpecial then [] else readPath kind pathText
  .ok ⟨scheme, some authority, path, query, fragment⟩

/-- Reads what follows the colon of a scheme that is not special. -/
def readOther (scheme text : List Char) : Except Fault Url :=
  match text with
  | '/' :: '/' :: rest => readHierarchical scheme .other rest
  | _ =>
      let (beforeFragment, fragment) := splitFragment text
      let (pathText, query) := splitQuery beforeFragment
      let path := if pathText.head? = some '/' then readPath .other pathText
        else Percent.encode Percent.isControl pathText
      .ok ⟨scheme, none, path, query, fragment⟩

/-- The host that follows the colon of the file scheme, and the text behind it. A drive letter in its
place is no host. -/
def splitFileHost (text : List Char) : List Char × List Char :=
  let isSlash (char : Char) : Bool := char == '/' || char == '\\'
  match text with
  | first :: second :: rest =>
      if isSlash first && isSlash second then
        let (host, behind) := rest.span fun char => !endsAuthority .file char
        if isDriveLetter host then ([], rest) else (host, behind)
      else ([], text)
  | _ => ([], text)

/-- Reads what follows the colon of the file scheme; the host may be empty. -/
def readFile (scheme text : List Char) : Except Fault Url := do
  let (hostText, remaining) := splitFileHost text
  let host ← if hostText.isEmpty then .ok (.name []) else Host.read hostText
  let (beforeFragment, fragment) := splitFragment remaining
  let (pathText, query) := splitQuery beforeFragment
  .ok ⟨scheme, some ⟨[], [], if host = .name "localhost".toList then .name [] else host, none⟩,
    readPath .file pathText, query, fragment⟩

def read (text : String) : Except Fault Url :=
  match splitScheme (cleaned text.toList) with
  | none => .error .relativeWithoutBase
  | some (scheme, rest) =>
      match SchemeKind.ofScheme scheme with
      | .file => readFile scheme rest
      | .special port =>
          readHierarchical scheme (.special port)
            (rest.dropWhile fun char => char == '/' || char == '\\')
      | .other => readOther scheme rest

end ChainTx.Url
