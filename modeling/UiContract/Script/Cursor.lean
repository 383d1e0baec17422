import UiContract.Text.Blank

/-!
A place in a source text and the readings that move it. A reading either moves the cursor on or
fails; the cursor remembers the furthest place where some reading failed, since that is where a
text that cannot be read goes wrong.
-/
namespace UiContract.Script

/-- A place in a source text: what is left, how many characters and line ends lie before it, the
furthest place where a reading has failed, and what stands behind the last token, with the line on
which that token ends. -/
structure Cursor where
  rest : List Char
  position : Nat := 0
  line : Nat := 1
  reached : Nat := 0
  behind : List Char := rest
  endLine : Nat := line
deriving Repr

structure Failure where
  reached : Nat
deriving Repr

abbrev Reading (α : Type) := StateT Cursor (Except Failure) α

namespace Cursor

def step (cursor : Cursor) : Cursor :=
  match cursor.rest with
  | [] => cursor
  | character :: rest =>
      { cursor with rest, position := cursor.position + 1,
                    line := if character == '\n' then cursor.line + 1 else cursor.line }

def advance : Nat → Cursor → Cursor
  | 0, cursor => cursor
  | count + 1, cursor => advance count cursor.step

end Cursor

def nul : Char := Char.ofNat 0

def isSpace (character : Char) : Bool :=
  Text.isBlank character || character == '\uFEFF' || character == '\u2060' ||
    character == '\u200B'

def endsLine (character : Char) : Bool :=
  character == '\n' || character == '\r' || character == '\u2028' || character == '\u2029'

/-- Where a scan over spaces and comments stands. Inside a block comment it keeps the place where the
comment began, which is where the scan ends if the comment is never closed. -/
inductive Gap where
  | space
  | lineComment
  | openComment (start : Cursor)
  | blockComment (start : Cursor) (star : Bool)

def skipGap (gap : Gap) (comments : List Nat) (cursor : Cursor) : List Char → Cursor × List Nat
  | [] => match gap with
      | .blockComment start _ | .openComment start =>
          ({ start with reached := max start.reached cursor.position }, comments.drop 1)
      | _ => (cursor, comments)
  | character :: rest =>
      let next := cursor.step
      match gap with
      | .lineComment =>
          skipGap (if endsLine character then .space else .lineComment) comments next rest
      | .openComment start => skipGap (.blockComment start false) comments next rest
      | .blockComment start star =>
          if star && character == '/' then skipGap .space comments next rest
          else skipGap (.blockComment start (character == '*')) comments next rest
      | .space =>
          if isSpace character then skipGap .space comments next rest
          else match character, rest with
            | '/', '/' :: _ => skipGap .lineComment (cursor.line :: comments) next rest
            | '/', '*' :: _ => skipGap (.openComment cursor) (cursor.line :: comments) next rest
            | _, _ => (cursor, comments)

def skip : Reading Unit := fun cursor =>
  .ok ((), (skipGap .space [] cursor cursor.rest).1)

def skipComments : Reading (List Nat) := fun cursor =>
  let behind : Cursor := { rest := cursor.behind, line := cursor.endLine }
  .ok ((skipGap .space [] behind cursor.behind).2.reverse,
    (skipGap .space [] cursor cursor.rest).1)

def beginsMarkupComment (rest : List Char) : Bool :=
  "<!--".toList.isPrefixOf rest || "-->".toList.isPrefixOf rest

/-- The cursor at the next statement. Where a statement could begin, the rest of a line behind a sign of
a comment in markup is a comment too. The number bounds how many of them are passed. -/
def statementStart : Nat → Cursor → Cursor
  | 0, cursor => cursor
  | count + 1, cursor =>
      let next := (skipGap .space [] cursor cursor.rest).1
      if beginsMarkupComment next.rest then
        let text := next.rest.takeWhile fun character =>
          character != '\n' && character != '\u2028' && character != '\u2029'
        statementStart count (next.advance text.length)
      else next

def toStatement : Reading Unit := fun cursor =>
  .ok ((), statementStart (cursor.rest.length + 1) cursor)

def fail {α : Type} : Reading α := fun cursor =>
  .error ⟨max cursor.position cursor.reached⟩

def orElse {α : Type} (first second : Reading α) : Reading α := fun cursor =>
  match first cursor with
  | .ok result => .ok result
  | .error failure => second { cursor with reached := max cursor.reached failure.reached }

def optional {α : Type} (reading : Reading α) : Reading (Option α) :=
  orElse (do return some (← reading)) (pure none)

def ahead : Reading (List Char) := fun cursor => .ok (cursor.rest, cursor)

def currentLine : Reading Nat := fun cursor => .ok (cursor.line, cursor)

def take (count : Nat) : Reading Unit := fun cursor =>
  let next := cursor.advance count
  .ok ((), { next with behind := next.rest, endLine := next.line })

def behindToken : Reading (List Char) := fun cursor => .ok (cursor.behind, cursor)

def goesOn (start : String) (rest : List Char) : Bool :=
  start.toList.isPrefixOf rest

def sign (text : String) : Reading Unit := do
  skip
  if goesOn text (← ahead) then take text.length else fail

def sign? (text : String) : Reading Bool := do
  skip
  if goesOn text (← ahead) then
    take text.length
    return true
  else return false

def signIf (holds : Bool) (text : String) : Reading Bool :=
  if holds then sign? text else return false

def crossesLine : Reading Bool := do
  skip
  fun cursor => .ok (cursor.line != cursor.endLine, cursor)

def upcoming : Reading (List Char) := do
  skip
  ahead

def afterGap (rest : List Char) : List Char :=
  (skipGap .space [] { rest } rest).1.rest

end UiContract.Script
