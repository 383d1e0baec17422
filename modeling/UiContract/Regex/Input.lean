import UiContract.Regex.Syntax
import UiContract.Text.Blank

/-!
A pattern that is being read. Where blanks are ignored, comments up to the end of a line are too.
-/
namespace UiContract.Regex

structure Input where
  rest : List Char
  place : Place := {}
  ignoring : Bool := false
  names : List (String × Extent) := []

abbrev Reading (α : Type) := StateT Input (Except Fault) α

def Input.step (input : Input) : Input :=
  match input.rest with
  | [] => input
  | character :: rest => { input with rest, place := input.place.behind character }

def Input.advance : Nat → Input → Input
  | 0, input => input
  | count + 1, input => advance count input.step

def fault {α : Type} (kind : FaultKind) (extent : Extent) : Reading α := throw { kind, extent }

def place : Reading Place := fun input => .ok (input.place, input)

def nextExtent : Reading Extent := fun input => .ok (⟨input.place, input.step.place⟩, input)

def since (first : Place) : Reading Extent := fun input => .ok (⟨first, input.place⟩, input)

def faultHere {α : Type} (kind : FaultKind) : Reading α := do fault kind (← place).here

def faultNext {α : Type} (kind : FaultKind) : Reading α := do fault kind (← nextExtent)

def faultSince {α : Type} (kind : FaultKind) (first : Place) : Reading α := do
  fault kind (← since first)

def ahead : Reading (List Char) := fun input => .ok (input.rest, input)

def peek : Reading (Option Char) := fun input => .ok (input.rest.head?, input)

def atEnd : Reading Bool := fun input => .ok (input.rest.isEmpty, input)

def take (count : Nat) : Reading Unit := fun input => .ok ((), input.advance count)

def ignoredLength (comment : Bool) : List Char → Nat
  | [] => 0
  | character :: rest =>
      if comment then ignoredLength (character != '\n') rest + 1
      else if Text.isBlank character then ignoredLength false rest + 1
      else if character == '#' then ignoredLength true rest + 1
      else 0

def skipIgnored : Reading Unit := fun input =>
  .ok ((), if input.ignoring then input.advance (ignoredLength false input.rest) else input)

def stepAndSkip : Reading Bool := do
  take 1
  skipIgnored
  return !(← atEnd)

/-- The character behind the next one and what is ignored between them. A comment there ends at its
first character that is not blank. -/
def peekBehind : Reading (Option Char) := fun input =>
  let behind := input.rest.drop 1
  let found := if input.ignoring then
      match behind.dropWhile Text.isBlank with
      | '#' :: rest => rest.dropWhile Text.isBlank
      | rest => rest
    else behind
  .ok (found.head?, input)

def takeText (text : String) : Reading Bool := fun input =>
  if text.toList.isPrefixOf input.rest then .ok (true, input.advance text.length)
  else .ok (false, input)

end UiContract.Regex
