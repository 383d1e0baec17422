import Mathlib.Algebra.Group.Embedding
import Mathlib.Data.Finset.Card
import Mathlib.Order.Bounds.Basic
import UiContract.Proofs.BudgetFindings
import UiContract.Proofs.Encoding
import UiContract.Proofs.ImportResolution

/-!
Occurrences that `measure` counts from the left. Passing over an occurrence as a whole costs nothing: of any
occurrences that do not overlap at most one begins inside of it, so none of the others is lost. What is
counted is the greatest number of occurrences of which no two overlap, also where the piece overlaps itself,
and a budget of occurrences is exceeded where more of them than its ceiling stand beside each other.
-/
namespace UiContract

namespace Text

/-- Places of a text where the piece stands, so far apart that no two of them overlap. -/
structure Packing (piece text : List Char) (places : Finset Nat) : Prop where
  stands : ∀ place ∈ places, piece <+: text.drop place
  apart : ∀ first ∈ places, ∀ second ∈ places, first < second → first + piece.length ≤ second

def packed (piece text : List Char) : Set Nat :=
  {count | ∃ places, Packing piece text places ∧ places.card = count}

section Counting

variable {piece : List Char}

theorem afterStart_isSome (text : List Char) :
    (afterStart? piece text).isSome = true ↔ piece <+: text := by
  rw [Option.isSome_iff_exists]
  exact exists_congr fun rest => (afterStart_iff piece text rest).trans eq_comm

/-- What was counted before is only added, and what is left of an occurrence is passed over. -/
theorem countFrom_eq (count skip : Nat) (text : List Char) :
    countFrom piece count skip text = count + occurrences piece (text.drop skip) := by
  induction text generalizing count skip with
  | nil =>
      rw [List.drop_nil]
      simp [occurrences, countFrom]
  | cons character rest ih =>
      cases skip with
      | succ skip => rw [countFrom, ih, List.drop_succ_cons]
      | zero =>
          rw [List.drop_zero, occurrences, countFrom, countFrom]
          split
          · rw [ih, ih]
            omega
          · rw [ih, ih]
            omega

theorem occurrences_begin (filled : piece ≠ []) {text : List Char} (begins : piece <+: text) :
    occurrences piece text = occurrences piece (text.drop piece.length) + 1 := by
  obtain ⟨first, more, rfl⟩ := List.exists_cons_of_ne_nil filled
  obtain ⟨rest, rfl⟩ := begins
  rw [List.cons_append, occurrences, countFrom, ← List.cons_append,
    if_pos ((afterStart_isSome _).mpr (List.prefix_append _ _)), countFrom_eq, List.cons_append,
    List.length_cons, List.drop_succ_cons, Nat.add_sub_cancel]
  omega

/-- Where the piece does not stand at the front, one character is passed over. -/
theorem occurrences_pass {character : Char} {rest : List Char}
    (other : ¬ piece <+: character :: rest) :
    occurrences piece (character :: rest) = occurrences piece rest := by
  rw [occurrences, countFrom, if_neg (mt (afterStart_isSome _).mp other), countFrom_eq,
    List.drop_zero, Nat.zero_add]

end Counting

section Packings

variable {piece text : List Char} {places : Finset Nat}

theorem packing_empty : Packing piece text ∅ where
  stands := by simp
  apart := by simp

theorem Packing.shift {skip : Nat} (packing : Packing piece (text.drop skip) places) :
    Packing piece text (places.map (addLeftEmbedding skip)) where
  stands := by
    intro place member
    obtain ⟨inner, listed, rfl⟩ := Finset.mem_map.mp member
    have stands := packing.stands inner listed
    rwa [List.drop_drop] at stands
  apart := by
    intro first member second member' before
    obtain ⟨inner, listed, rfl⟩ := Finset.mem_map.mp member
    obtain ⟨inner', listed', rfl⟩ := Finset.mem_map.mp member'
    rw [addLeftEmbedding_apply, addLeftEmbedding_apply] at before ⊢
    have apart := packing.apart inner listed inner' listed' (by omega)
    omega

theorem Packing.unshift {skip : Nat} (packing : Packing piece text places)
    (behind : ∀ place ∈ places, skip ≤ place) :
    ∃ inner, Packing piece (text.drop skip) inner ∧ inner.card = places.card := by
  refine ⟨places.image (· - skip), ⟨?_, ?_⟩, Finset.card_image_of_injOn ?_⟩
  · intro place member
    obtain ⟨outer, listed, rfl⟩ := Finset.mem_image.mp member
    rw [List.drop_drop, Nat.add_sub_cancel' (behind outer listed)]
    exact packing.stands outer listed
  · intro first member second member' before
    obtain ⟨outer, listed, rfl⟩ := Finset.mem_image.mp member
    obtain ⟨outer', listed', rfl⟩ := Finset.mem_image.mp member'
    have late := behind outer listed
    have apart := packing.apart outer listed outer' listed' (by omega)
    omega
  · intro first member second member' same
    have late := behind first member
    have late' := behind second member'
    dsimp only at same
    omega

theorem Packing.subset {fewer : Finset Nat} (packing : Packing piece text places)
    (part : fewer ⊆ places) : Packing piece text fewer where
  stands place member := packing.stands place (part member)
  apart first member second member' := packing.apart first (part member) second (part member')

/-- At most one of the places lies in a stretch that is no longer than the piece. -/
theorem Packing.single (packing : Packing piece text places)
    (near : ∀ place ∈ places, place < piece.length) : places.card ≤ 1 := by
  refine Finset.card_le_one_iff.mpr fun {first second} member member' => ?_
  rcases Nat.lt_trichotomy first second with before | same | after
  · have apart := packing.apart first member second member' before
    have inside := near second member'
    omega
  · exact same
  · have apart := packing.apart second member' first member after
    have inside := near first member
    omega

/-- Places in two texts are places in the text that they are put together to. -/
theorem Packing.append {back : List Char} {others : Finset Nat} (filled : piece ≠ [])
    (packing : Packing piece text places) (packing' : Packing piece back others) :
    Packing piece (text ++ back) (places ∪ others.map (addLeftEmbedding text.length)) ∧
      (places ∪ others.map (addLeftEmbedding text.length)).card = places.card + others.card := by
  have length := List.length_pos_iff.mpr filled
  have inside : ∀ place ∈ places, place + piece.length ≤ text.length := by
    intro place member
    have fits := (packing.stands place member).length_le
    rw [List.length_drop] at fits
    omega
  have behind : Packing piece (text ++ back) (others.map (addLeftEmbedding text.length)) :=
    Packing.shift (by rwa [List.drop_left])
  have late : ∀ place ∈ others.map (addLeftEmbedding text.length), text.length ≤ place := by
    intro place member
    obtain ⟨inner, -, rfl⟩ := Finset.mem_map.mp member
    exact Nat.le_add_right _ _
  refine ⟨⟨?_, ?_⟩, ?_⟩
  · intro place member
    rcases Finset.mem_union.mp member with front | later
    · rw [List.drop_append_of_le_length (by have := inside place front; omega)]
      exact (packing.stands place front).trans (List.prefix_append _ _)
    · exact behind.stands place later
  · intro first member second member' before
    rcases Finset.mem_union.mp member with front | later <;>
      rcases Finset.mem_union.mp member' with front' | later'
    · exact packing.apart first front second front' before
    · exact (inside first front).trans (late second later')
    · have early := inside second front'
      have late := late first later
      omega
    · exact behind.apart first later second later' before
  · rw [Finset.card_union_of_disjoint, Finset.card_map]
    refine Finset.disjoint_left.mpr fun place front later => ?_
    have early := inside place front
    have late := late place later
    omega

end Packings

section Optimum

variable {piece : List Char} (filled : piece ≠ [])
include filled

theorem occurrences_packed (text : List Char) : occurrences piece text ∈ packed piece text := by
  -- The induction is on how much is left, since an occurrence is passed over as a whole.
  induction size : text.length using Nat.strongRecOn generalizing text with
  | _ size ih =>
      subst size
      have length := List.length_pos_iff.mpr filled
      by_cases begins : piece <+: text
      · have fits := begins.length_le
        obtain ⟨places, packing, count⟩ := ih (text.drop piece.length).length
          (by rw [List.length_drop]; omega) _ rfl
        have behind : ∀ place ∈ places.map (addLeftEmbedding piece.length),
            piece.length ≤ place := by
          intro place member
          obtain ⟨inner, -, rfl⟩ := Finset.mem_map.mp member
          exact Nat.le_add_right _ _
        refine ⟨insert 0 (places.map (addLeftEmbedding piece.length)), ⟨?_, ?_⟩, ?_⟩
        · intro place member
          rcases Finset.mem_insert.mp member with rfl | later
          · exact begins
          · exact packing.shift.stands place later
        · intro first member second member' before
          rcases Finset.mem_insert.mp member' with rfl | later'
          · contradiction
          · rcases Finset.mem_insert.mp member with rfl | later
            · rw [Nat.zero_add]
              exact behind second later'
            · exact packing.shift.apart first later second later' before
        · have fresh : 0 ∉ places.map (addLeftEmbedding piece.length) := fun member =>
            Nat.not_le_of_gt length (behind 0 member)
          rw [Finset.card_insert_of_notMem fresh, Finset.card_map, count,
            occurrences_begin filled begins]
      · cases text with
        | nil => exact ⟨∅, packing_empty, rfl⟩
        | cons character rest =>
            obtain ⟨places, packing, count⟩ := ih rest.length (Nat.lt_succ_self _) rest rfl
            have packing' : Packing piece ((character :: rest).drop 1) places := packing
            refine ⟨_, packing'.shift, ?_⟩
            rw [Finset.card_map, count, occurrences_pass begins]

theorem Packing.card_le {text : List Char} {places : Finset Nat}
    (packing : Packing piece text places) : places.card ≤ occurrences piece text := by
  induction size : text.length using Nat.strongRecOn generalizing text places with
  | _ size ih =>
      subst size
      have length := List.length_pos_iff.mpr filled
      by_cases begins : piece <+: text
      · -- At most one of the places is lost with the occurrence at the front.
        have fits := begins.length_le
        have near : (places.filter (· < piece.length)).card ≤ 1 :=
          (packing.subset (Finset.filter_subset _ _)).single fun place member =>
            (Finset.mem_filter.mp member).2
        obtain ⟨inner, packing', same⟩ :=
          (packing.subset (Finset.filter_subset (¬ · < piece.length) _)).unshift
            fun place member => Nat.le_of_not_lt (Finset.mem_filter.mp member).2
        have far := ih (text.drop piece.length).length (by rw [List.length_drop]; omega) packing' rfl
        have whole := Finset.card_filter_add_card_filter_not (s := places) (· < piece.length)
        rw [occurrences_begin filled begins]
        omega
      · cases text with
        | nil =>
            have none : places = ∅ := Finset.eq_empty_of_forall_notMem fun place member => by
              have stands := packing.stands place member
              rw [List.drop_nil] at stands
              exact filled (List.prefix_nil.mp stands)
            rw [none]
            exact Nat.zero_le _
        | cons character rest =>
            have later : ∀ place ∈ places, 1 ≤ place := by
              intro place member
              refine Nat.one_le_iff_ne_zero.mpr ?_
              rintro rfl
              exact begins (packing.stands 0 member)
            obtain ⟨inner, packing', same⟩ := packing.unshift later
            rw [occurrences_pass begins, ← same]
            exact ih rest.length (Nat.lt_succ_self _) packing' rfl

/-- What is counted from the left is the most that can be chosen without overlaps. -/
theorem occurrences_isGreatest (text : List Char) :
    IsGreatest (packed piece text) (occurrences piece text) := by
  refine ⟨occurrences_packed filled text, ?_⟩
  rintro count ⟨places, packing, rfl⟩
  exact packing.card_le filled

theorem lt_occurrences_iff (text : List Char) (ceiling : Nat) :
    ceiling < occurrences piece text ↔
      ∃ places, Packing piece text places ∧ ceiling < places.card := by
  constructor
  · intro exceeds
    obtain ⟨places, packing, count⟩ := occurrences_packed filled text
    exact ⟨places, packing, count ▸ exceeds⟩
  · rintro ⟨places, packing, exceeds⟩
    exact exceeds.trans_le (packing.card_le filled)

theorem occurrences_append_le (front back : List Char) :
    occurrences piece front + occurrences piece back ≤ occurrences piece (front ++ back) := by
  obtain ⟨places, packing, count⟩ := occurrences_packed filled front
  obtain ⟨others, packing', count'⟩ := occurrences_packed filled back
  obtain ⟨both, total⟩ := packing.append filled packing'
  rw [← count, ← count', ← total]
  exact both.card_le filled

end Optimum

end Text

namespace Checks

def Selected.text (tree : FileTree) (file : Selected) : List Char :=
  match tree.readBytes file.path with
  | .ok content => Text.decodeLossy content
  | .error _ => []

section Ceilings

variable {tree : FileTree} {root : Path} {rule : BudgetRule} {found : List Violation}

theorem size_occurrences {literal : String} (file : Selected) :
    (Measure.occurrences literal).size tree file =
      Text.occurrences literal.toList (file.text tree) := by
  unfold Measure.size Selected.text
  cases tree.readBytes file.path <;> rfl

theorem readable_of_evaluated [Engine] (evaluated : evaluateBudget tree root rule = .ok found) :
    Readable tree root rule.files := by
  intro globs files compiled selected file member
  rw [evaluateBudget_survey] at evaluated
  unfold survey at evaluated
  rw [compiled] at evaluated
  cases chosen : Measure.ofRule rule with
  | error error =>
      rw [chosen] at evaluated
      contradiction
  | ok measure =>
      rw [chosen] at evaluated
      dsimp only [bind, Except.bind, mapError_ok] at evaluated
      rw [selected, mapError_ok] at evaluated
      dsimp only at evaluated
      rw [if_neg (by simpa using List.ne_nil_of_mem member)] at evaluated
      cases measured : measure.ofFiles tree files with
      | error error =>
          rw [measured] at evaluated
          contradiction
      | ok sizes =>
          have each := (mapM_ok_iff _ _ _).mp measured
          obtain ⟨size, -, here⟩ := exists_of_forall₂ each member
          cases read : tree.readBytes file.path with
          | ok content => exact ⟨content, rfl⟩
          | error reason =>
              simp [Measure.ofFile, read] at here

/-- A budget of occurrences for each file finds the files in which more than its ceiling can be chosen
without overlaps. -/
theorem occurrences_each {literal : String} (filled : literal ≠ "") (files : List Selected)
    (judges : Judges tree rule (.occurrences literal) files found) (alone : rule.aggregate = false) :
    ∃ exceeding : List Selected, exceeding.Sublist files ∧ found.map Violation.subject =
        exceeding.map Selected.relative ∧
      ∀ file ∈ files, file ∈ exceeding ↔
        ∃ places, Text.Packing literal.toList (file.text tree) places ∧ rule.max < places.card := by
  have piece : literal.toList ≠ [] := by simpa using filled
  refine ⟨files.filter fun file => rule.max < (Measure.occurrences literal).size tree file,
    List.filter_sublist, ?_, fun file member => ?_⟩
  · rw [judges.each alone, List.map_map]
    exact List.map_congr_left fun file _ => by simp [fileOver]
  · rw [List.mem_filter, and_iff_right member, decide_eq_true_iff, size_occurrences,
      Text.lt_occurrences_iff piece]

/-- Choices in each of some files can be as many together as what is counted in the files. -/
theorem lt_sum_occurrences_iff {piece : List Char} (filled : piece ≠ []) (files : List Selected)
    (ceiling : Nat) :
    ceiling < (files.map fun file => Text.occurrences piece (file.text tree)).sum ↔
      ∃ chosen : Selected → Finset Nat,
        (∀ file ∈ files, Text.Packing piece (file.text tree) (chosen file)) ∧
          ceiling < (files.map fun file => (chosen file).card).sum := by
  constructor
  · intro exceeds
    choose chosen packing count using fun file : Selected =>
      Text.occurrences_packed filled (file.text tree)
    refine ⟨chosen, fun file _ => packing file, ?_⟩
    simpa only [count] using exceeds
  · rintro ⟨chosen, packing, exceeds⟩
    refine exceeds.trans_le (List.sum_le_sum fun file member => ?_)
    exact (packing file member).card_le filled

theorem total_occurrences (literal : String) (files : List Selected) :
    (Measure.occurrences literal).total tree files =
      (files.map fun file => Text.occurrences literal.toList (file.text tree)).sum :=
  congrArg List.sum (List.map_congr_left fun file _ => size_occurrences file)

/-- A budget of occurrences for all files together is exceeded only where more than its ceiling can be chosen
in them without overlaps, and is exceeded there if 64 bits hold their sum. -/
theorem occurrences_together {literal : String} (filled : literal ≠ "") (files : List Selected)
    (whole : rule.aggregate = true) :
    let found := overBudget rule (Measure.occurrences literal).unit
      (files.map fun file => (file.relative, (Measure.occurrences literal).size tree file))
    let exceeds := ∃ chosen : Selected → Finset Nat,
      (∀ file ∈ files, Text.Packing literal.toList (file.text tree) (chosen file)) ∧
        rule.max < (files.map fun file => (chosen file).card).sum
    (found ≠ [] → exceeds) ∧
      ((Measure.occurrences literal).total tree files < UInt64.size → exceeds → found ≠ []) := by
  have piece : literal.toList ≠ [] := by simpa using filled
  intro found exceeds
  have exceeds_iff : found ≠ [] ↔
      rule.max < (Measure.occurrences literal).total tree files % UInt64.size := by
    rw [← totalOf_sizes, ← Nat.not_le]
    unfold found
    rw [overBudget_together whole]
    split
    · rename_i within
      exact iff_of_false (fun some => some rfl) fun above => above within
    · rename_i above
      exact iff_of_true (List.cons_ne_nil _ _) above
  rw [exceeds_iff]
  unfold exceeds
  rw [← lt_sum_occurrences_iff piece, ← total_occurrences]
  constructor
  · exact fun above => above.trans_le (Nat.mod_le _ _)
  · intro held above
    rwa [Nat.mod_eq_of_lt held]

theorem evaluated_occurrences [Engine] {literal : String} (counts : rule.metric = .occurrences)
    (given : rule.literal = some literal) (filled : literal ≠ "")
    (evaluated : evaluateBudget tree root rule = .ok found) :
    ∃ globs files, PathGlobs.compile rule.files = .ok globs ∧
      budgetFiles tree root rule.files globs = .ok files ∧
      found = overBudget rule (Measure.occurrences literal).unit
        (files.map fun file => (file.relative, (Measure.occurrences literal).size tree file)) := by
  obtain ⟨globs, measure, files, compiled, chosen, selected, -, same⟩ :=
    evaluateBudget_ok (readable_of_evaluated evaluated) evaluated
  have measured : Measure.ofRule rule = .ok (.occurrences literal) := by
    unfold Measure.ofRule
    rw [counts, given]
    exact if_neg (by simpa using filled)
  obtain rfl := Except.ok.inj (chosen.symm.trans measured)
  exact ⟨globs, files, compiled, selected, same⟩

end Ceilings

/-- What a budget of occurrences measures in a file is the greatest number of occurrences of its literal of
which no two overlap, in whatever the bytes of the file are read as, and in a text where they are its bytes.
A text has at least as many as its parts together. A budget for each file finds the files in which more than
its ceiling stand beside each other, and a budget for all files is exceeded where more than its ceiling do in
all of them, as long as 64 bits hold their number. -/
theorem occurrences_exact [Engine] (literal : String) (filled : literal ≠ "") :
    let count := (Measure.occurrences literal).count
    (∀ content, IsGreatest (Text.packed literal.toList (Text.decodeLossy content)) (count content)) ∧
    (∀ text, IsGreatest (Text.packed literal.toList text) (count (Text.encode text))) ∧
    (∀ front back, count (Text.encode front) + count (Text.encode back) ≤
      count (Text.encode (front ++ back))) ∧
    ∀ tree root rule found, rule.metric = .occurrences → rule.literal = some literal →
      evaluateBudget tree root rule = .ok found → ∃ globs files,
        PathGlobs.compile rule.files = .ok globs ∧ budgetFiles tree root rule.files globs = .ok files ∧
        (rule.aggregate = false → ∃ exceeding : List Selected, exceeding.Sublist files ∧
          found.map Violation.subject = exceeding.map Selected.relative ∧
          ∀ file ∈ files, file ∈ exceeding ↔ ∃ places,
            Text.Packing literal.toList (file.text tree) places ∧ rule.max < places.card) ∧
        (rule.aggregate = true →
          let exceeds := ∃ chosen : Selected → Finset Nat,
            (∀ file ∈ files, Text.Packing literal.toList (file.text tree) (chosen file)) ∧
              rule.max < (files.map fun file => (chosen file).card).sum
          (found ≠ [] → exceeds) ∧
            ((Measure.occurrences literal).total tree files < UInt64.size → exceeds → found ≠ [])) := by
  have piece : literal.toList ≠ [] := by simpa using filled
  have counted : ∀ text, (Measure.occurrences literal).count (Text.encode text) =
      Text.occurrences literal.toList text := fun text =>
    congrArg (Text.occurrences literal.toList) (Text.decodeLossy_encode text)
  refine ⟨fun content => Text.occurrences_isGreatest piece _, fun text => ?_, fun front back => ?_, ?_⟩
  · rw [counted]
    exact Text.occurrences_isGreatest piece text
  · rw [counted, counted, counted]
    exact Text.occurrences_append_le piece front back
  · intro tree root rule found counts given evaluated
    obtain ⟨globs, files, compiled, selected, rfl⟩ := evaluated_occurrences counts given filled evaluated
    exact ⟨globs, files, compiled, selected, occurrences_each filled files (overBudget_judges rule _ files),
      occurrences_together filled files⟩

section Twins

attribute [local instance] Engine.rough

def letterTree : FileTree where
  entries := .ofList [(["src".toList], .directory), (["src".toList, "a.ts".toList], .file [97, 97, 97]),
    (["src".toList, "b.ts".toList], .file [97, 97, 97, 97, 97])]

def letterRule : BudgetRule :=
  { id := "twins", metric := .occurrences, files := ["src/*.ts"], max := 1, literal := some "aa" }

theorem occurrences_exact_twins : "aa" ≠ "" ∧
    IsGreatest (Text.packed "aa".toList "aaaaa".toList) 2 ∧
    ∃ found, evaluateBudget letterTree ⟨"/"⟩ letterRule = .ok found ∧
      found.map Violation.subject = ["src/b.ts"] ∧
      ∃ exceeding : List Selected, found.map Violation.subject = exceeding.map Selected.relative ∧
        ∀ file ∈ exceeding, ∃ places,
          Text.Packing "aa".toList (file.text letterTree) places ∧ 1 < places.card := by
  obtain ⟨-, texts, -, budgets⟩ := occurrences_exact "aa" (by decide)
  have computed : (evaluateBudget letterTree ⟨"/"⟩ letterRule).toOption.map
      (fun found => found.map Violation.subject) = some ["src/b.ts"] := by decide
  cases evaluated : evaluateBudget letterTree ⟨"/"⟩ letterRule with
  | error error =>
      rw [evaluated] at computed
      contradiction
  | ok found =>
      rw [evaluated] at computed
      obtain ⟨globs, files, -, -, each, -⟩ := budgets letterTree ⟨"/"⟩ letterRule found rfl rfl evaluated
      obtain ⟨exceeding, part, subjects, only⟩ := each rfl
      exact ⟨by decide, texts "aaaaa".toList, found, rfl, Option.some.inj computed, exceeding, subjects,
        fun file member => (only file (part.subset member)).mp member⟩

end Twins

end Checks

end UiContract
