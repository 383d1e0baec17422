import Mathlib.Data.List.Basic
import Mathlib.Data.List.Forall2
import UiContract.Violation

/-!
The order of findings in a report. Putting findings in order is stable, so the result is known from
the findings that tie: leaving findings out before or after makes no difference, and findings of
different checks may come in any order.
-/
namespace UiContract

instance : Std.LawfulEqOrd Check where
  eq_of_compare {first second} same := by
    have ranks : first.rank = second.rank := Std.LawfulEqOrd.eq_of_compare same
    revert ranks
    cases first <;> cases second <;> simp [Check.rank]

namespace Violation

theorem order_trans (first second third : Violation) (left : (order first second).isLE = true)
    (right : (order second third).isLE = true) : (order first third).isLE = true :=
  Std.TransCmp.isLE_trans left right

theorem order_total (first second : Violation) :
    ((order first second).isLE || (order second first).isLE) = true := by
  have swapped : order second first = (order first second).swap := Std.OrientedCmp.eq_swap
  rw [swapped]
  cases order first second <;> rfl

theorem sort_perm (found : List Violation) : (sort found).Perm found :=
  List.mergeSort_perm found _

theorem sort_ascending (found : List Violation) :
    (sort found).Pairwise fun first second => (order first second).isLE = true :=
  List.pairwise_mergeSort order_trans order_total found

theorem sort_of_ascending {found : List Violation}
    (ascending : found.Pairwise fun first second => (order first second).isLE = true) :
    sort found = found :=
  List.mergeSort_of_pairwise ascending

def ties (first second : Violation) : Bool :=
  order first second == .eq

theorem ties_self (violation : Violation) : ties violation violation = true := by
  simp [ties, Std.ReflCmp.compare_self]

theorem order_self (violation : Violation) : (order violation violation).isLE = true := by
  rw [beq_iff_eq.mp (ties_self violation)]
  rfl

theorem ties_rule (first second : Violation) (tied : ties first second = true) :
    first.rule = second.rule := by
  obtain ⟨rules, -⟩ := compareLex_eq_eq.mp (beq_iff_eq.mp tied)
  exact Std.LawfulEqOrd.eq_of_compare rules

theorem ties_trans (violation first second : Violation) (left : ties violation first = true)
    (right : ties violation second = true) : order first second = .eq :=
  Std.TransCmp.eq_trans (Std.OrientedCmp.eq_symm (beq_iff_eq.mp left)) (beq_iff_eq.mp right)

theorem filter_ties_sort (violation : Violation) (found : List Violation) :
    (sort found).filter (ties violation) = found.filter (ties violation) := by
  have level : (found.filter (ties violation)).Pairwise
      fun first second => (order first second).isLE = true := by
    refine List.pairwise_iff_forall_sublist.mpr fun {first second} part => ?_
    have left := (List.mem_filter.mp (part.subset (List.mem_cons_self ..))).2
    have right := (List.mem_filter.mp
      (part.subset (List.mem_cons_of_mem first List.mem_cons_self))).2
    rw [ties_trans violation first second left right]
    rfl
  have kept : (found.filter (ties violation)).Sublist (sort found) :=
    List.sublist_mergeSort order_trans order_total level List.filter_sublist
  have part := kept.filter (ties violation)
  simp only [List.filter_filter, Bool.and_self] at part
  exact (part.eq_of_length ((sort_perm found).filter _).length_eq.symm).symm

theorem mem_iff_of_ties (left right : List Violation)
    (same : ∀ violation, left.filter (ties violation) = right.filter (ties violation))
    (violation : Violation) : violation ∈ left ↔ violation ∈ right := by
  have known := congrArg (fun found => violation ∈ found) (same violation)
  simpa [ties_self] using known

/-- A list in order is known from its findings that tie, since of two findings that stand first none
comes before the other. -/
theorem eq_of_ties (left right : List Violation)
    (leftAscending : left.Pairwise fun first second => (order first second).isLE = true)
    (rightAscending : right.Pairwise fun first second => (order first second).isLE = true)
    (same : ∀ violation, left.filter (ties violation) = right.filter (ties violation)) :
    left = right := by
  induction left generalizing right with
  | nil =>
      cases right with
      | nil => rfl
      | cons head rest => simpa using mem_iff_of_ties _ _ same head
  | cons head rest ih =>
      cases right with
      | nil => simpa using mem_iff_of_ties _ _ same head
      | cons other others =>
          obtain ⟨leftBelow, leftTail⟩ := List.pairwise_cons.mp leftAscending
          obtain ⟨rightBelow, rightTail⟩ := List.pairwise_cons.mp rightAscending
          -- Each head stands somewhere in the other list, so neither comes before the other.
          have forward : (order head other).isLE = true := by
            have member := (mem_iff_of_ties _ _ same other).mpr List.mem_cons_self
            rcases List.mem_cons.mp member with equal | later
            · rw [equal]
              exact order_self _
            · exact leftBelow other later
          have backward : (order other head).isLE = true := by
            have member := (mem_iff_of_ties _ _ same head).mp List.mem_cons_self
            rcases List.mem_cons.mp member with equal | later
            · rw [equal]
              exact order_self _
            · exact rightBelow head later
          have tied : ties head other = true :=
            beq_iff_eq.mpr (Std.OrientedCmp.isLE_antisymm forward backward)
          have first := same head
          rw [List.filter_cons_of_pos (ties_self head), List.filter_cons_of_pos tied] at first
          obtain ⟨equal, -⟩ := List.cons.inj first
          subst equal
          have tails : ∀ violation, rest.filter (ties violation) = others.filter (ties violation) := by
            intro violation
            have whole := same violation
            by_cases hit : ties violation head = true
            · rw [List.filter_cons_of_pos hit, List.filter_cons_of_pos hit] at whole
              exact (List.cons.inj whole).2
            · rwa [List.filter_cons_of_neg hit, List.filter_cons_of_neg hit] at whole
          rw [ih others leftTail rightTail tails]

/-- Findings that are changed in nothing that the order looks at keep their places. -/
theorem sort_forall₂ (related : Violation → Violation → Prop) (left right : List Violation)
    (alike : ∀ before after, related before after →
      before.rule = after.rule ∧ before.subject = after.subject ∧ before.line = after.line ∧
        before.message = after.message)
    (pairs : List.Forall₂ related left right) :
    List.Forall₂ related (sort left) (sort right) := by
  have paired : ∀ pair ∈ left.zip right, related pair.1 pair.2 := fun pair member =>
    List.forall₂_zip pairs member
  have orders : ∀ first ∈ left.zip right, ∀ second ∈ left.zip right,
      order first.1 second.1 = order first.2 second.2 := by
    intro first member second other
    obtain ⟨rules, subjects, lines, messages⟩ := alike _ _ (paired first member)
    obtain ⟨rules', subjects', lines', messages'⟩ := alike _ _ (paired second other)
    simp [order, compareLex, compareOn, rules, subjects, lines, messages, rules', subjects', lines',
      messages']
  -- Sorting the pairs by either side is one and the same sort.
  let sorted := (left.zip right).mergeSort fun first second => (order first.1 second.1).isLE
  have lefts : sorted.map Prod.fst = sort left := by
    rw [← List.map_fst_zip (Nat.le_of_eq pairs.length_eq)]
    exact List.map_mergeSort fun _ _ _ _ => rfl
  have rights : sorted.map Prod.snd = sort right := by
    rw [← List.map_snd_zip (Nat.le_of_eq pairs.length_eq.symm)]
    exact List.map_mergeSort fun first member second other => by
      rw [orders first member second other]
  rw [← lefts, ← rights, List.forall₂_map_left_iff, List.forall₂_map_right_iff]
  exact List.forall₂_same.mpr fun pair member => paired pair (List.mem_mergeSort.mp member)

theorem filter_sort (keep : Violation → Bool) (found : List Violation) :
    (sort found).filter keep = sort (found.filter keep) := by
  refine eq_of_ties _ _ ((sort_ascending found).filter keep) (sort_ascending _) fun violation => ?_
  rw [filter_ties_sort, List.filter_comm, filter_ties_sort, List.filter_comm]

/-- Findings of different checks never tie, so only the order within each check matters. -/
theorem sort_eq_of_rules (left right : List Violation)
    (same : ∀ check, left.filter (fun violation => violation.rule = check) =
      right.filter fun violation => violation.rule = check) : sort left = sort right := by
  refine eq_of_ties _ _ (sort_ascending left) (sort_ascending right) fun violation => ?_
  have narrow : ∀ found : List Violation, found.filter (ties violation) =
      (found.filter fun other => other.rule = violation.rule).filter (ties violation) := by
    intro found
    rw [List.filter_filter]
    refine List.filter_congr fun other _ => ?_
    by_cases tied : ties violation other = true
    · simp [tied, ties_rule violation other tied]
    · simp [tied]
  rw [filter_ties_sort, filter_ties_sort, narrow left, narrow right, same]

end Violation

end UiContract
