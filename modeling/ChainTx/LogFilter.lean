import ChainTx.Text.Blank
import ChainTx.Text.Decimal
import ChainTx.Text.Split

/-!
Contract: which events are logged.

Owns:
- levels, by name or number;
- directives, each of which sets the level of a target, of a span, or of everything else;
- filters, that is, lists of directives, and their reader, of which a strict form refuses what a
  lenient form drops;
- the choice between the caller's own filter and the configured level.

Does not own: the writing of logs.
-/

set_option autoImplicit false

namespace ChainTx

inductive LogLevel where
  | off
  | error
  | warn
  | info
  | debug
  | trace
deriving DecidableEq, Repr

namespace LogLevel

def name : LogLevel → String
  | .off => "off"
  | .error => "error"
  | .warn => "warn"
  | .info => "info"
  | .debug => "debug"
  | .trace => "trace"

/-- All levels, from the quietest one; a level's place is its number. -/
def all : List LogLevel :=
  [.off, .error, .warn, .info, .debug, .trace]

/-- The level that a name stands for; its case does not matter. -/
def ofName? (text : List Char) : Option LogLevel :=
  all.find? fun level => level.name.toList == text.map Char.toLower

/-- The level that a name or one digit stands for. -/
def ofText? (text : List Char) : Option LogLevel :=
  (ofName? text).or
    (match text with
    | [digit] => if digit.isDigit then all[Decimal.digitValue digit]? else none
    | _ => none)

/-- The level that a name or a number stands for. -/
def ofNumeral? (text : List Char) : Option LogLevel :=
  (ofName? text).or ((Decimal.read? text).bind (all[·]?))

end LogLevel

/-- The level of what a target and a span admit. -/
structure LogDirective where
  target : Option String
  span : Option String
  level : LogLevel
deriving DecidableEq, Repr

namespace LogDirective

/-- True of the characters of targets: ASCII letters, digits and three marks, and everything beyond
ASCII but blanks. -/
def isTargetChar (char : Char) : Bool :=
  char.isAlphanum || char == '_' || char == ':' || char == '-'
    || (128 ≤ char.toNat && !isBlank char)

def text (directive : LogDirective) : String :=
  let scope := directive.target.getD ""
    ++ (match directive.span with
      | some span => "[" ++ span ++ "]"
      | none => "")
  if scope.isEmpty then directive.level.name else scope ++ "=" ++ directive.level.name

/-- Reads a span in brackets; an empty one names nothing. -/
def readSpan? : List Char → Option (Option String × List Char)
  | '[' :: rest =>
      match rest.span fun char => char != ']' && char.toNat != 0x7B with
      | ([], ']' :: rest) => some (none, rest)
      | (name, ']' :: rest) => some (some (String.ofList name), rest)
      | _ => none
  | chars => some (none, chars)

/-- Reads the level behind a scope: an equals sign and a level. Without a level everything is
logged. -/
def readLevel? : List Char → Option LogLevel
  | [] => some .trace
  | ['='] => some .trace
  | '=' :: rest => LogLevel.ofText? rest
  | _ => none

/-- The directive of a scope and a level. A target that is itself a level counts as none. -/
def ofParts (target : List Char) (span : Option String) (level : LogLevel) : LogDirective :=
  let named := target ≠ [] ∧ LogLevel.ofNumeral? target = none
  ⟨if named then some (String.ofList target) else none, span, level⟩

def ofText? (text : List Char) : Option LogDirective :=
  match LogLevel.ofText? text with
  | some level => some ⟨none, none, level⟩
  | none => do
      let (target, rest) := text.span isTargetChar
      let (span, rest) ← readSpan? rest
      if target = [] ∧ text.head? ≠ some '[' then none
      else some (ofParts target span (← readLevel? rest))

/-- True of directives for the same scope. -/
def sameScope (left right : LogDirective) : Bool :=
  left.target == right.target && left.span == right.span

end LogDirective

abbrev LogFilter := List LogDirective

namespace LogFilter

/-- Of several directives for one scope the last one counts. -/
def ofDirectives : List LogDirective → LogFilter
  | [] => []
  | directive :: rest =>
      if rest.any directive.sameScope then ofDirectives rest
      else directive :: ofDirectives rest

/-- The written directives of a list with commas. -/
def pieces (text : String) : List (List Char) :=
  (splitOnChar ',' text.toList).filter fun piece => piece ≠ []

/-- Reads a list of directives, all of which must be readable. -/
def strict? (text : String) : Option LogFilter :=
  ((pieces text).mapM LogDirective.ofText?).map ofDirectives

/-- Reads the readable ones of a list of directives. Where there are none, errors are logged. -/
def lenient (text : String) : LogFilter :=
  match (pieces text).filterMap LogDirective.ofText? with
  | [] => [⟨none, none, .error⟩]
  | directives => ofDirectives directives

def ofLevel (level : String) : LogFilter :=
  if level.isEmpty then lenient "devnet_tx=info,txctl=info"
  else lenient ("devnet_tx=" ++ level ++ ",txctl=" ++ level)

/-- The filter in force: the caller's own if it is readable, else that of the configured level. -/
def inForce (level : String) (own : Option String) : LogFilter :=
  (own.bind strict?).getD (ofLevel level)

/-- The written form of a filter, in order; a filter without directives is the empty text. -/
def texts (filter : LogFilter) : List String :=
  match filter with
  | [] => [""]
  | directives => (directives.map LogDirective.text).mergeSort (· ≤ ·)

end LogFilter

end ChainTx
