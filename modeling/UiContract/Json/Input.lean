/-!
A JSON text that is being read. A reading moves on in the text and gives what it read or a fault. A
fault about the text has a place; one about the meaning of a value gets its place from the reading
around the value, so the input behind a fault is kept as well.
-/
namespace UiContract.Json

structure Place where
  line : Nat := 1
  column : Nat := 0
deriving DecidableEq, Repr

structure Input where
  rest : List Char
  place : Place := {}
  depth : Nat := 128
deriving Repr

structure Fault where
  message : String
  place : Option Place := none
deriving DecidableEq, Repr

def Fault.text (fault : Fault) : String :=
  match fault.place with
  | some place =>
      fault.message ++ " at line " ++ toString place.line ++ " column " ++ toString place.column
  | none => fault.message

def Place.behind (place : Place) (character : Char) : Place :=
  if character == '\n' then { line := place.line + 1, column := 0 }
  else { place with column := place.column + character.utf8Size }

def Input.step (input : Input) : Input :=
  match input.rest with
  | [] => input
  | character :: rest => { input with rest, place := input.place.behind character }

def Input.advance : Nat → Input → Input
  | 0, input => input
  | count + 1, input => advance count input.step

abbrev Reading (α : Type) := ExceptT Fault (StateM Input) α

def faultHere {α : Type} (message : String) : Reading α :=
  ExceptT.mk fun input => (.error ⟨message, some input.place⟩, input)

def Input.ahead (input : Input) : Place :=
  match input.rest with
  | [] => input.place
  | '\n' :: _ => { line := input.place.line + 1, column := 0 }
  | _ => { input.place with column := input.place.column + 1 }

def faultAhead {α : Type} (message : String) : Reading α :=
  ExceptT.mk fun input => (.error ⟨message, some input.ahead⟩, input)

def mistake {α : Type} (message : String) : Reading α :=
  ExceptT.mk fun input => (.error ⟨message, none⟩, input)

def settled {α : Type} (reading : Reading α) : Reading α :=
  ExceptT.mk fun input => match reading.run input with
    | (.error fault, after) => (.error { fault with place := some (fault.place.getD after.place) }, after)
    | read => read

/-- Reads something and its end. The end is looked for after a fault as well, since the place of the
fault may depend on it, but the first fault counts. -/
def closedBy {α : Type} (reading : Reading α) (ending : Reading Unit) : Reading α :=
  ExceptT.mk fun input => match reading.run input with
    | (.ok value, after) => match ending.run after with
        | (.ok (), behind) => (.ok value, behind)
        | (.error fault, behind) => (.error fault, behind)
    | (.error fault, after) => (.error fault, (ending.run after).2)

def peek : Reading (Option Char) := do
  return (← getThe Input).rest.head?

def step : Reading Unit := modifyThe Input Input.step

def next : Reading (Option Char) := do
  let character ← peek
  step
  return character

def isBlank (character : Char) : Bool :=
  character == ' ' || character == '\n' || character == '\t' || character == '\r'

def upcoming : Reading (Option Char) := do
  modifyThe Input fun input => input.advance (input.rest.takeWhile isBlank).length
  peek

def remaining : Reading Nat := do
  return (← getThe Input).rest.length + 1

def nested {α : Type} (reading : Reading α) : Reading α := do
  let depth := (← getThe Input).depth
  if depth ≤ 1 then faultAhead "recursion limit exceeded"
  else
    modifyThe Input fun input => { input with depth := depth - 1 }
    let read ← reading
    modifyThe Input fun input => { input with depth }
    return read

end UiContract.Json
