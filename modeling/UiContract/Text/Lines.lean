import UiContract.Text.Utf8

/-!
The lines of a text by their starts: a table of the places behind line breaks, counted in bytes, in which
the line of a place is looked up by halves.
-/
namespace UiContract.Text

def lineStartsFrom (place : Nat) : List Char → List Nat
  | [] => []
  | character :: rest =>
      let next := place + charSize character
      if character == '\n' then next :: lineStartsFrom next rest else lineStartsFrom next rest

def lineStarts (text : List Char) : Array Nat := (0 :: lineStartsFrom 0 text).toArray

/-- The first of the indices from `low` up to `high` at which the entry is above a place, or `high` where
there is none. The entries below `low` are known not to be above it, and those from `high` on to be. -/
def partitionBetween (entries : Array Nat) (place low high : Nat) : Nat :=
  if low < high then
    let middle := (low + high) / 2
    if entries.getD middle 0 ≤ place then partitionBetween entries place (middle + 1) high
    else partitionBetween entries place low middle
  else low
termination_by high - low

def lineAt (starts : Array Nat) (place : Nat) : Nat :=
  partitionBetween starts place 0 starts.size

end UiContract.Text
