import UiContract.Text.Pieces

/-!
What is wrong with a pattern, and how that is shown: the pattern with a mark under each place, and the
reason. A pattern of several lines is shown with the numbers of its lines.
-/
namespace UiContract.Regex

structure Place where
  offset : Nat := 0
  line : Nat := 1
  column : Nat := 1
deriving DecidableEq, Repr

def Place.behind (place : Place) (character : Char) : Place :=
  if character == '\n' then ⟨place.offset + 1, place.line + 1, 1⟩
  else ⟨place.offset + 1, place.line, place.column + 1⟩

structure Extent where
  first : Place
  last : Place
deriving DecidableEq, Repr

def Place.here (place : Place) : Extent := ⟨place, place⟩

inductive FaultKind where
  | setEscape
  | setRange
  | setRangeLiteral
  | setUnclosed
  | decimalInvalid
  | hexEmpty
  | hexNoScalar
  | hexDigit
  | escapeEnd
  | escapeUnknown
  | flagDangling
  | flagDuplicate
  | flagRepeatedNegation
  | flagEnd
  | flagUnknown
  | nameDuplicate
  | nameEmpty
  | nameCharacter
  | nameEnd
  | groupUnclosed
  | groupUnopened
  | tooDeep (limit : Nat)
  | countOrder
  | countMissing
  | countUnclosed
  | repetitionMissing
  | wordBoundaryUnclosed
  | wordBoundaryUnknown
  | wordBoundaryEnd
  | propertyInvalid
  | backreference
  | lookAround
  | unicodeNotAllowed
  | brokenUtf8
  | noProperty
  | noPropertyValue
deriving DecidableEq, Repr

def FaultKind.message : FaultKind → String
  | setEscape => "invalid escape sequence found in character class"
  | setRange => "invalid character class range, the start must be <= the end"
  | setRangeLiteral => "invalid range boundary, must be a literal"
  | setUnclosed => "unclosed character class"
  | decimalInvalid => "decimal literal invalid"
  | hexEmpty => "hexadecimal literal empty"
  | hexNoScalar => "hexadecimal literal is not a Unicode scalar value"
  | hexDigit => "invalid hexadecimal digit"
  | escapeEnd => "incomplete escape sequence, reached end of pattern prematurely"
  | escapeUnknown => "unrecognized escape sequence"
  | flagDangling => "dangling flag negation operator"
  | flagDuplicate => "duplicate flag"
  | flagRepeatedNegation => "flag negation operator repeated"
  | flagEnd => "expected flag but got end of regex"
  | flagUnknown => "unrecognized flag"
  | nameDuplicate => "duplicate capture group name"
  | nameEmpty => "empty capture group name"
  | nameCharacter => "invalid capture group character"
  | nameEnd => "unclosed capture group name"
  | groupUnclosed => "unclosed group"
  | groupUnopened => "unopened group"
  | tooDeep limit =>
      "exceed the maximum number of nested parentheses/brackets (" ++ toString limit ++ ")"
  | countOrder => "invalid repetition count range, the start must be <= the end"
  | countMissing => "repetition quantifier expects a valid decimal"
  | countUnclosed => "unclosed counted repetition"
  | repetitionMissing => "repetition operator missing expression"
  | wordBoundaryUnclosed =>
      "special word boundary assertion is either unclosed or contains an invalid character"
  | wordBoundaryUnknown =>
      "unrecognized special word boundary assertion, valid choices are: start, end, start-half " ++
        "or end-half"
  | wordBoundaryEnd =>
      "found either the beginning of a special word boundary or a bounded repetition on a \\b " ++
        "with an opening brace, but no closing brace"
  | propertyInvalid => "invalid Unicode character class"
  | backreference => "backreferences are not supported"
  | lookAround => "look-around, including look-ahead and look-behind, is not supported"
  | unicodeNotAllowed => "Unicode not allowed here"
  | brokenUtf8 => "pattern can match invalid UTF-8"
  | noProperty => "Unicode property not found"
  | noPropertyValue => "Unicode property value not found"

/-- What is wrong with a pattern, and where. Something that is there twice has a second place. -/
structure Fault where
  kind : FaultKind
  extent : Extent
  other : Option Extent := none
deriving DecidableEq, Repr

def Fault.extents (fault : Fault) : List Extent :=
  match fault.other with
  | none => [fault.extent]
  | some other =>
      if other.first.offset < fault.extent.first.offset then [other, fault.extent]
      else [fault.extent, other]

def repeated (count : Nat) (character : Char) : List Char := List.replicate count character

def marks (column : Nat) : List Extent → List Char
  | [] => []
  | extent :: rest =>
      let blanks := extent.first.column - 1 - column
      let length := max 1 (extent.last.column - extent.first.column)
      repeated blanks ' ' ++ repeated length '^' ++ marks (column + blanks + length) rest

/-- The lines of a pattern without their ends. A last line that is empty does not count. -/
def patternLines (pattern : String) : List (List Char) :=
  let pieces := Text.pieces (· == '\n') pattern.toList
  let whole := if pieces.getLast? == some [] then pieces.dropLast else pieces
  let ended := if pieces.getLast? == some [] then whole.length else whole.length - 1
  whole.mapIdx fun index line =>
    if index < ended && line.getLast? == some '\r' then line.dropLast else line

/-- The lines of a pattern, each with the marks that belong under it. The width is that of the numbers
of the lines, zero where they are not shown. -/
def notedLines (width : Nat) (extents : List Extent) (lines : List (List Char)) : List (List Char) :=
  let indent := if width == 0 then 4 else width + 2
  (lines.mapIdx fun index line =>
    let number := toString (index + 1)
    let lead := if width == 0 then repeated 4 ' '
      else repeated (width - number.length) ' ' ++ number.toList ++ [':', ' ']
    let parts := extents.filter fun extent => extent.first.line == index + 1
    if parts.isEmpty then [lead ++ line]
    else [lead ++ line, repeated indent ' ' ++ marks 0 parts]).flatten

def acrossLines (extent : Extent) : String :=
  "on line " ++ toString extent.first.line ++ " (column " ++ toString extent.first.column ++
    ") through line " ++ toString extent.last.line ++ " (column " ++
    toString (extent.last.column - 1) ++ ")"

def Fault.describe (pattern : String) (fault : Fault) : String :=
  let lines := patternLines pattern
  let reason := "error: " ++ fault.kind.message
  let (inner, across) := fault.extents.partition fun extent => extent.first.line == extent.last.line
  let shown (width : Nat) : String :=
    String.join ((notedLines width inner lines).map fun line => String.ofList line ++ "\n")
  if pattern.toList.contains '\n' then
    let count := lines.length + (if pattern.toList.getLast? == some '\n' then 1 else 0)
    let width := if count ≤ 1 then 0 else (toString count).length
    let ruler := String.ofList (repeated 79 '~') ++ "\n"
    let notes := if across.isEmpty then "" else Text.join "\n" (across.map acrossLines) ++ "\n"
    "regex parse error:\n" ++ ruler ++ shown width ++ ruler ++ notes ++ reason
  else "regex parse error:\n" ++ shown 0 ++ reason

end UiContract.Regex
