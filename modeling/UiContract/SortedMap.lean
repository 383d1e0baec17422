/-!
Finite maps whose entries stand in the order of their keys. Looking a key up, putting a value under
a key and listing the entries is all they do; two keys that compare as equal are one key, and the
spelling that came first stays. That the keys ascend is part of the map, so no key has two entries.
-/
namespace UiContract

structure SortedMap (Key Value : Type) [Ord Key] where
  entries : List (Key × Value)
  ascending : entries.Pairwise fun earlier later => compare earlier.1 later.1 = .lt
deriving Repr, DecidableEq

namespace SortedMap

variable {Key Value : Type} [Ord Key]

def empty : SortedMap Key Value := ⟨[], .nil⟩

instance : EmptyCollection (SortedMap Key Value) := ⟨empty⟩

instance : Inhabited (SortedMap Key Value) := ⟨empty⟩

def insertEntry (key : Key) (value : Value) : List (Key × Value) → List (Key × Value)
  | [] => [(key, value)]
  | (first, kept) :: rest =>
      match compare key first with
      | .lt => (key, value) :: (first, kept) :: rest
      | .eq => (first, value) :: rest
      | .gt => (first, kept) :: insertEntry key value rest

theorem mem_insertEntry_or (key : Key) (value : Value) (entries : List (Key × Value))
    (entry : Key × Value) (member : entry ∈ insertEntry key value entries) :
    entry.1 = key ∨ ∃ old ∈ entries, old.1 = entry.1 := by
  induction entries with
  | nil => simp_all [insertEntry]
  | cons head rest ih =>
      unfold insertEntry at member
      split at member
      · rcases List.mem_cons.mp member with same | old
        · exact Or.inl (congrArg Prod.fst same)
        · exact Or.inr ⟨entry, old, rfl⟩
      · rcases List.mem_cons.mp member with same | old
        · exact Or.inr ⟨head, List.mem_cons_self, (congrArg Prod.fst same).symm⟩
        · exact Or.inr ⟨entry, List.mem_cons_of_mem head old, rfl⟩
      · rcases List.mem_cons.mp member with same | later
        · exact Or.inr ⟨head, List.mem_cons_self, (congrArg Prod.fst same).symm⟩
        · rcases ih later with fresh | ⟨old, kept, same⟩
          · exact Or.inl fresh
          · exact Or.inr ⟨old, List.mem_cons_of_mem head kept, same⟩

theorem insertEntry_ascending [Std.TransOrd Key] (key : Key) (value : Value)
    (entries : List (Key × Value))
    (ascending : entries.Pairwise fun earlier later => compare earlier.1 later.1 = .lt) :
    (insertEntry key value entries).Pairwise
      fun earlier later => compare earlier.1 later.1 = .lt := by
  induction entries with
  | nil => simp [insertEntry]
  | cons head rest ih =>
      obtain ⟨below, tail⟩ := List.pairwise_cons.mp ascending
      unfold insertEntry
      split
      · rename_i before
        refine List.pairwise_cons.mpr ⟨fun entry member => ?_, ascending⟩
        rcases List.mem_cons.mp member with same | later
        · subst same
          exact before
        · exact Std.TransCmp.lt_trans before (below entry later)
      · exact List.pairwise_cons.mpr ⟨below, tail⟩
      · rename_i after
        refine List.pairwise_cons.mpr ⟨fun entry member => ?_, ih tail⟩
        rcases mem_insertEntry_or key value rest entry member with fresh | ⟨old, kept, same⟩
        · rw [fresh]
          exact Std.OrientedCmp.lt_of_gt after
        · rw [← same]
          exact below old kept

/-- Puts a value under a key; the last value under a key counts. -/
def insert [Std.TransOrd Key] (map : SortedMap Key Value) (key : Key) (value : Value) :
    SortedMap Key Value :=
  ⟨insertEntry key value map.entries, insertEntry_ascending key value map.entries map.ascending⟩

def find? (map : SortedMap Key Value) (key : Key) : Option Value :=
  (map.entries.find? fun entry => compare key entry.1 == .eq).map Prod.snd

def contains (map : SortedMap Key Value) (key : Key) : Bool :=
  (map.find? key).isSome

/-- The map of a list of entries; of two entries with one key the later counts. -/
def ofList [Std.TransOrd Key] (entries : List (Key × Value)) : SortedMap Key Value :=
  entries.foldl (fun map entry => map.insert entry.1 entry.2) {}

def keys (map : SortedMap Key Value) : List Key :=
  map.entries.map Prod.fst

def values (map : SortedMap Key Value) : List Value :=
  map.entries.map Prod.snd

def size (map : SortedMap Key Value) : Nat :=
  map.entries.length

end SortedMap

def sortedDistinct {Key : Type} [Ord Key] [Std.TransOrd Key] (members : List Key) : List Key :=
  (SortedMap.ofList (members.map fun key => (key, ()))).keys

end UiContract
