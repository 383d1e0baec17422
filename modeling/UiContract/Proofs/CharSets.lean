import Mathlib.Data.List.Chain
import UiContract.Regex.Expr

/-!
What is in sets of characters. The ranges of a set that was made of ranges ascend, so it has just the
characters of these; and a union has just the characters of its sets.
-/
namespace UiContract

namespace CharSet

structure Ascending (ranges : List (Nat × Nat)) : Prop where
  order : ranges.Pairwise fun first second => first.1 ≤ second.1
  filled : ∀ range ∈ ranges, range.1 ≤ range.2

theorem ascending_iff_chain (ranges : List (Nat × Nat)) :
    (ranges.IsChain (fun first second => first.1 ≤ second.1) ∧ ∀ range ∈ ranges, range.1 ≤ range.2) ↔
      Ascending ranges := by
  have transitive : IsTrans (Nat × Nat) fun first second => first.1 ≤ second.1 :=
    ⟨fun _ _ _ => Nat.le_trans⟩
  rw [List.isChain_iff_pairwise]
  exact ⟨fun ⟨order, filled⟩ => ⟨order, filled⟩, fun ⟨order, filled⟩ => ⟨order, filled⟩⟩

instance (ranges : List (Nat × Nat)) : Decidable (Ascending ranges) :=
  decidable_of_iff _ (ascending_iff_chain ranges)

def Covers (ranges : List (Nat × Nat)) (code : Nat) : Prop :=
  ∃ range ∈ ranges, range.1 ≤ code ∧ code ≤ range.2

section Ranges

variable {ranges : List (Nat × Nat)} {code : Nat}

theorem covers_cons {range : Nat × Nat} :
    Covers (range :: ranges) code ↔ (range.1 ≤ code ∧ code ≤ range.2) ∨ Covers ranges code := by
  simp [Covers]

theorem Ascending.tail {range : Nat × Nat} (ascending : Ascending (range :: ranges)) :
    Ascending ranges :=
  ⟨(List.pairwise_cons.mp ascending.order).2,
    fun other member => ascending.filled other (List.mem_cons_of_mem range member)⟩

/-- In ascending ranges the search may stop at the first one that begins too late. -/
theorem inRanges_iff (ascending : Ascending ranges) :
    inRanges code ranges = true ↔ Covers ranges code := by
  induction ranges with
  | nil => simp [inRanges, Covers]
  | cons range rest ih =>
      obtain ⟨first, last⟩ := range
      have later := (List.pairwise_cons.mp ascending.order).1
      rw [covers_cons, inRanges]
      split
      -- The later ranges begin behind the code point too.
      · rename_i early
        refine iff_of_false Bool.false_ne_true ?_
        rintro (⟨begins, -⟩ | ⟨other, member, begins, -⟩)
        · exact Nat.not_lt.mpr begins early
        · exact Nat.not_lt.mpr (Nat.le_trans (later other member) begins) early
      · rename_i late
        rw [Bool.or_eq_true, decide_eq_true_eq, ih ascending.tail]
        simp [Nat.not_lt.mp late]

theorem joined_ascending (ascending : Ascending ranges) :
    Ascending (joined ranges) ∧ (∀ range ∈ joined ranges, ∃ other ∈ ranges, other.1 = range.1) ∧
      ∀ code, Covers (joined ranges) code ↔ Covers ranges code := by
  induction ranges with
  | nil => exact ⟨⟨.nil, nofun⟩, nofun, fun _ => Iff.rfl⟩
  | cons range rest ih =>
      obtain ⟨first, last⟩ := range
      obtain ⟨whole, begins, covers⟩ := ih ascending.tail
      have filled : first ≤ last := ascending.filled (first, last) List.mem_cons_self
      have later : ∀ range ∈ joined rest, first ≤ range.1 := by
        intro range member
        obtain ⟨other, listed, same⟩ := begins range member
        rw [← same]
        exact (List.pairwise_cons.mp ascending.order).1 other listed
      rw [joined]
      split
      · rename_i none
        rw [none] at covers
        refine ⟨⟨List.pairwise_singleton _ _, ?_⟩, ?_, fun code => ?_⟩
        · simpa using filled
        · simp
        · rw [covers_cons, covers_cons, ← covers code]
      -- What has been joined so far begins with a range that meets the first one, or lies behind it.
      · rename_i next final others found
        rw [found] at whole covers begins later
        have behind : first ≤ next := later (next, final) List.mem_cons_self
        have wide : next ≤ final := whole.filled (next, final) List.mem_cons_self
        split
        · rename_i meets
          refine ⟨⟨List.pairwise_cons.mpr ⟨fun other member => ?_, whole.tail.order⟩, ?_⟩, ?_,
            fun code => ?_⟩
          · exact later other (List.mem_cons_of_mem _ member)
          · intro range member
            rcases List.mem_cons.mp member with rfl | among
            · exact Nat.le_trans filled (Nat.le_max_left _ _)
            · exact whole.tail.filled range among
          · intro range member
            rcases List.mem_cons.mp member with rfl | among
            · exact ⟨(first, last), List.mem_cons_self, rfl⟩
            · obtain ⟨other, listed, same⟩ := begins range (List.mem_cons_of_mem _ among)
              exact ⟨other, List.mem_cons_of_mem _ listed, same⟩
          · rw [covers_cons, covers_cons, ← covers code, covers_cons, ← or_assoc]
            refine or_congr_left ?_
            dsimp only
            omega
        · refine ⟨⟨List.pairwise_cons.mpr ⟨later, whole.order⟩, ?_⟩, ?_, fun code => ?_⟩
          · intro range member
            rcases List.mem_cons.mp member with rfl | among
            · exact filled
            · exact whole.filled range among
          · intro range member
            rcases List.mem_cons.mp member with rfl | among
            · exact ⟨(first, last), List.mem_cons_self, rfl⟩
            · obtain ⟨other, listed, same⟩ := begins range among
              exact ⟨other, List.mem_cons_of_mem _ listed, same⟩
          · rw [covers_cons, covers code, covers_cons]

theorem covers_perm {others : List (Nat × Nat)} (same : ranges.Perm others) :
    Covers ranges code ↔ Covers others code := by
  unfold Covers
  simp only [same.mem_iff]

end Ranges

variable {sets : List CharSet} {character : Char}

/-- The ranges of a set that is made of ranges ascend and cover just what these do. -/
theorem ofRanges_ascending (ranges : List (Nat × Nat)) : Ascending (ofRanges ranges).ranges ∧
    ∀ code, Covers (ofRanges ranges).ranges code ↔ Covers ranges code := by
  have sorted : Ascending ((ranges.filter fun range => range.1 ≤ range.2).mergeSort
      fun first second => first.1 ≤ second.1) := by
    constructor
    · have transitive : ∀ first second third : Nat × Nat, decide (first.1 ≤ second.1) = true →
          decide (second.1 ≤ third.1) = true → decide (first.1 ≤ third.1) = true := by
        intro first second third before after
        exact decide_eq_true (Nat.le_trans (of_decide_eq_true before) (of_decide_eq_true after))
      have total : ∀ first second : Nat × Nat,
          (decide (first.1 ≤ second.1) || decide (second.1 ≤ first.1)) = true := by
        intro first second
        simpa using Nat.le_total first.1 second.1
      exact (List.pairwise_mergeSort transitive total _).imp fun before => of_decide_eq_true before
    · intro range member
      have among := (List.mergeSort_perm _ _).mem_iff.mp member
      simpa using (List.mem_filter.mp among).2
  obtain ⟨ascending, -, covers⟩ := joined_ascending sorted
  refine ⟨ascending, fun code => ?_⟩
  unfold ofRanges
  dsimp only
  rw [covers, covers_perm (List.mergeSort_perm _ _)]
  -- An empty range covers nothing.
  unfold Covers
  simp only [List.mem_filter, decide_eq_true_eq]
  constructor
  · rintro ⟨range, ⟨member, -⟩, inside⟩
    exact ⟨range, member, inside⟩
  · rintro ⟨range, member, begins, ends⟩
    exact ⟨range, ⟨member, Nat.le_trans begins ends⟩, begins, ends⟩

theorem contains_unions (ascending : ∀ set ∈ sets, Ascending set.ranges) :
    (unions sets).contains character = sets.any (·.contains character) := by
  obtain ⟨whole, covers⟩ := ofRanges_ascending (sets.flatMap ranges)
  rw [Bool.eq_iff_iff, List.any_eq_true]
  unfold contains unions
  rw [inRanges_iff whole, covers]
  constructor
  · rintro ⟨range, member, inside⟩
    obtain ⟨set, listed, held⟩ := List.mem_flatMap.mp member
    exact ⟨set, listed, (inRanges_iff (ascending set listed)).mpr ⟨range, held, inside⟩⟩
  · rintro ⟨set, listed, held⟩
    obtain ⟨range, member, inside⟩ := (inRanges_iff (ascending set listed)).mp held
    exact ⟨range, List.mem_flatMap.mpr ⟨set, listed, member⟩, inside⟩

theorem unions_ascending (sets : List CharSet) : Ascending (unions sets).ranges :=
  (ofRanges_ascending _).1

end CharSet

namespace Unicode

def letterSets : List CharSet :=
  [uppercaseLetters, lowercaseLetters, titlecaseLetters, modifierLetters, otherLetters]

def markSets : List CharSet := [nonspacingMarks, spacingMarks, enclosingMarks]

def wordSets : List CharSet :=
  (letterSets ++ [letterNumbers, otherAlphabetic]) ++
    (markSets ++ [decimalNumbers, connectorPunctuation, joinControls])

theorem wordSets_ascending : ∀ set ∈ wordSets, CharSet.Ascending set.ranges := by
  decide +kernel

theorem contains_wordCharacters (character : Char) :
    wordCharacters.contains character = wordSets.any (·.contains character) := by
  obtain ⟨alphabets, others⟩ := List.forall_mem_append.mp wordSets_ascending
  obtain ⟨inLetters, more⟩ := List.forall_mem_append.mp alphabets
  obtain ⟨inMarks, rest⟩ := List.forall_mem_append.mp others
  have ofLetters : letters.contains character = letterSets.any (·.contains character) :=
    CharSet.contains_unions inLetters
  have ofMarks : marks.contains character = markSets.any (·.contains character) :=
    CharSet.contains_unions inMarks
  have ofAlphabets : alphabetic.contains character =
      (letterSets ++ [letterNumbers, otherAlphabetic]).any (·.contains character) := by
    have ascending : ∀ set ∈ [letters, letterNumbers, otherAlphabetic],
        CharSet.Ascending set.ranges :=
      List.forall_mem_cons.mpr ⟨CharSet.unions_ascending letterSets, more⟩
    rw [List.any_append, ← ofLetters]
    exact CharSet.contains_unions ascending
  have ascending : ∀ set ∈ [alphabetic, marks, decimalNumbers, connectorPunctuation, joinControls],
      CharSet.Ascending set.ranges :=
    List.forall_mem_cons.mpr ⟨CharSet.unions_ascending _,
      List.forall_mem_cons.mpr ⟨CharSet.unions_ascending markSets, rest⟩⟩
  unfold wordCharacters wordSets
  rw [List.any_append, ← ofAlphabets, List.any_append, ← ofMarks]
  exact CharSet.contains_unions ascending

end Unicode

end UiContract
