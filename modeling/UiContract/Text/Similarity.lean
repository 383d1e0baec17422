/-!
How much two texts are alike: what share of each the characters are that they have in common, not far
from each other, and what share of these stands in the same order. The three shares count alike.
-/
namespace UiContract.Text

def findInWindow? (character : Char) (taken : List Nat) (low : Nat) (place : Nat) :
    List Char → Nat → Option Nat
  | [], _ => none
  | _, 0 => none
  | other :: rest, left + 1 =>
      if low ≤ place && other == character && !taken.contains place then some place
      else findInWindow? character taken low (place + 1) rest left

/-- The characters from a place on that have a partner in the other text, and the places of the
partners. A partner is at most so far away. -/
def partners (reach : Nat) (other : List Char) (place : Nat) (taken : List Nat) :
    List Char → List Char × List Nat
  | [] => ([], taken)
  | character :: rest =>
      match findInWindow? character taken (place - reach) 0 other (place + reach + 1) with
      | some partner =>
          let (common, taken) := partners reach other (place + 1) (partner :: taken) rest
          (character :: common, taken)
      | none => partners reach other (place + 1) taken rest

structure Share where
  part : Nat
  whole : Nat
deriving DecidableEq, Repr

def Share.less (first second : Share) : Bool := first.part * second.whole < second.part * first.whole

def similarity (first second : List Char) : Share :=
  if first.isEmpty && second.isEmpty then ⟨1, 1⟩
  else
    let reach := max first.length second.length / 2 - 1
    let (common, places) := partners reach second 0 [] first
    let count := common.length
    let partnered := (second.zipIdx.filter fun entry => places.contains entry.2).map Prod.fst
    let swapped := ((common.zip partnered).filter fun pair => pair.1 != pair.2).length / 2
    if count == 0 then ⟨0, 1⟩
    else
      let lengths := first.length * second.length
      ⟨count * count * (first.length + second.length) + (count - swapped) * lengths,
        3 * lengths * count⟩

end UiContract.Text
