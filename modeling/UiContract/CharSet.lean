/-!
Sets of characters as ranges of code points. The ranges of a set are in ascending order and apart from
each other, so that a set has one form, and its complement is what lies between them.
-/
namespace UiContract

structure CharSet where
  ranges : List (Nat × Nat)
deriving DecidableEq, Repr

namespace CharSet

def highest : Nat := 0x10FFFF

def joined : List (Nat × Nat) → List (Nat × Nat)
  | [] => []
  | (first, last) :: rest =>
      match joined rest with
      | [] => [(first, last)]
      | (next, final) :: others =>
          if next ≤ last + 1 then (first, max last final) :: others
          else (first, last) :: (next, final) :: others

def ofRanges (ranges : List (Nat × Nat)) : CharSet :=
  let filled := ranges.filter fun range => range.1 ≤ range.2
  ⟨joined (filled.mergeSort fun first second => first.1 ≤ second.1)⟩

def empty : CharSet := ⟨[]⟩

def between (first last : Nat) : CharSet := ofRanges [(first, last)]

def single (character : Char) : CharSet := ⟨[(character.toNat, character.toNat)]⟩

def ofText (text : String) : CharSet :=
  ofRanges (text.toList.map fun character => (character.toNat, character.toNat))

def inRanges (code : Nat) : List (Nat × Nat) → Bool
  | [] => false
  | (first, last) :: rest => if code < first then false else code ≤ last || inRanges code rest

def contains (set : CharSet) (character : Char) : Bool := inRanges character.toNat set.ranges

def union (first second : CharSet) : CharSet := ofRanges (first.ranges ++ second.ranges)

def unions (sets : List CharSet) : CharSet := ofRanges (sets.flatMap ranges)

def gaps (start : Nat) : List (Nat × Nat) → List (Nat × Nat)
  | [] => if start ≤ highest then [(start, highest)] else []
  | (first, last) :: rest =>
      if start < first then (start, first - 1) :: gaps (last + 1) rest else gaps (last + 1) rest

def complement (set : CharSet) : CharSet := ⟨gaps 0 set.ranges⟩

def intersection (first second : CharSet) : CharSet :=
  (first.complement.union second.complement).complement

def difference (first second : CharSet) : CharSet := first.intersection second.complement

def symmetricDifference (first second : CharSet) : CharSet :=
  (first.union second).difference (first.intersection second)

def all : CharSet := ⟨[(0, highest)]⟩

def ascii : CharSet := ⟨[(0, 0x7F)]⟩

def isAscii (set : CharSet) : Bool := set.ranges.all fun range => range.2 ≤ 0x7F

end CharSet

end UiContract
