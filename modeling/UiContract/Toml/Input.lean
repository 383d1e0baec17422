import UiContract.Datum
import UiContract.Text.Utf8

/-!
A TOML text that is being read, and how what is wrong with one is shown: with its line, a mark under
the place, and the reason. Places are counted in bytes, columns in characters.
-/
namespace UiContract.Toml

structure Input where
  rest : List Char
  offset : Nat := 0
  depth : Nat := 0
deriving Repr

/-- Why a text cannot be read. A soft fault means that something else may stand there. -/
structure Fault where
  span : Span
  message : String
  soft : Bool := false
deriving DecidableEq, Repr

abbrev Reading (α : Type) := StateT Input (Except Fault) α

def Input.step (input : Input) : Input :=
  match input.rest with
  | [] => input
  | character :: rest => { input with rest, offset := input.offset + character.utf8Size }

def Input.advance : Nat → Input → Input
  | 0, input => input
  | count + 1, input => advance count input.step

def Input.nextSpan (input : Input) : Span :=
  ⟨input.offset, input.step.offset⟩

def fault {α : Type} (message : String) : Reading α := fun input =>
  .error ⟨input.nextSpan, message, false⟩

def faultBehind {α : Type} (count : Nat) (message : String) : Reading α := fun input =>
  .error ⟨(input.advance count).nextSpan, message, false⟩

def softFaultBehind {α : Type} (count : Nat) (message : String) : Reading α := fun input =>
  .error ⟨(input.advance count).nextSpan, message, true⟩

def softFault {α : Type} (message : String) : Reading α := softFaultBehind 0 message

def firmly {α : Type} (reading : Reading α) : Reading α := fun input =>
  match reading input with
  | .error fault => .error { fault with soft := false }
  | read => read

def attempt {α : Type} (reading : Reading α) : Reading (Option α) := fun input =>
  match reading input with
  | .ok (value, after) => .ok (some value, after)
  | .error fault => if fault.soft then .ok (none, input) else .error fault

def ahead : Reading (List Char) := fun input => .ok (input.rest, input)

def peek : Reading (Option Char) := fun input => .ok (input.rest.head?, input)

def offset : Reading Nat := fun input => .ok (input.offset, input)

def take (count : Nat) : Reading Unit := fun input => .ok ((), input.advance count)

def skipBlanks : Reading Unit := do
  take ((← ahead).takeWhile fun character => character == ' ' || character == '\t').length

def lineEndLength : List Char → Nat
  | '\n' :: _ => 1
  | '\r' :: '\n' :: _ => 2
  | _ => 0

def isPlain (character : Char) : Bool :=
  character == '\t' || (0x20 ≤ character.toNat && character.toNat != 0x7F)

def commentLength (rest : List Char) : Nat :=
  if rest.head? == some '#' then (rest.takeWhile isPlain).length else 0

/-- The line and the column of a byte of a text, both counted from zero. The column counts characters,
but bytes where the place is inside a character. -/
def locate (target : Nat) (position line lineStart column : Nat) : List Char → Nat × Nat
  | [] => (line, target - lineStart)
  | character :: rest =>
      let next := position + character.utf8Size
      if target < next then (line, if target + 1 == next then column else target - lineStart)
      else if character == '\n' then locate target next (line + 1) next 0 rest
      else locate target next line lineStart (column + 1) rest

def placeOf (text : List Char) (index : Nat) : Nat × Nat :=
  let size := Text.byteSize text
  if size == 0 then (0, index)
  else
    let inside := min index (size - 1)
    let (line, column) := locate inside 0 0 0 0 text
    (line, column + (index - inside))

def blanks (count : Nat) : String := String.ofList (List.replicate count ' ')

def describe (text : String) (span : Span) (message : String) : String :=
  let characters := text.toList
  let (line, column) := placeOf characters span.first
  let content := (Text.pieces (· == '\n') characters).getD line []
  let marks := min span.last (span.first + Text.byteSize content) - (span.first + 1)
  let number := toString (line + 1)
  let gutter := blanks (number.length + 1) ++ "|"
  "TOML parse error at line " ++ number ++ ", column " ++ toString (column + 1) ++ "\n" ++
    gutter ++ "\n" ++ number ++ " | " ++ String.ofList content ++ "\n" ++
    gutter ++ blanks (column + 1) ++ "^" ++ String.ofList (List.replicate marks '^') ++ "\n" ++
    message ++ "\n"

end UiContract.Toml
