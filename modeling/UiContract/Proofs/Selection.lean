import UiContract.Proofs.Findings
import UiContract.Proofs.ReportOrder

/-!
Runs that ask only some of the checks. The findings of such a run are those findings of the full run
that carry a check it asks, and its summaries count what stands in its report. In which order the
checks are asked shows nowhere but in the order of the summaries.
-/
namespace UiContract

theorem Check.all_nodup : Check.all.Nodup := by decide

namespace Gate

def runInOrder [Engine] (gate : Gate) (strict : Bool) (order : List Check) : Report :=
  let outcomes := order.map (gate.outcome strict)
  Report.make strict gate.stats (outcomes.map Prod.fst) (outcomes.flatMap Prod.snd)

theorem run_eq_runInOrder [Engine] (gate : Gate) (options : RunOptions) :
    gate.run options = gate.runInOrder options.strict (Check.all.filter options.selects) := rfl

variable (gate : Gate) (strict : Bool)

def found [Engine] (check : Check) : List Violation := (gate.outcome strict check).2

theorem found_rule [Engine] (check : Check) (violation : Violation)
    (member : violation ∈ gate.found strict check) : violation.rule = check := by
  unfold found outcome at member
  split at member
  · contradiction
  · exact Check.findings_rule _ check violation member

/-- The summary of a check counts what is found, also where the check is skipped. -/
theorem outcome_counts [Engine] (check : Check) :
    let summary := (gate.outcome strict check).1
    summary.check = check ∧
      summary.errors = (gate.found strict check).countP Violation.isError ∧
      summary.warnings = (gate.found strict check).countP fun violation => !violation.isError := by
  unfold found outcome
  split
  · exact ⟨rfl, rfl, rfl⟩
  · refine ⟨rfl, rfl, ?_⟩
    show (check.findings (gate.context strict)).length -
      (check.findings (gate.context strict)).countP Violation.isError = _
    rw [List.length_eq_countP_add_countP Violation.isError, Nat.add_sub_cancel_left]
    simp

/-- Among the findings of different checks those of one check are told by their rule. -/
theorem filter_found [Engine] (order : List Check) (distinct : order.Nodup) (check : Check) :
    (order.flatMap (gate.found strict)).filter (fun violation => violation.rule = check) =
      if check ∈ order then gate.found strict check else [] := by
  induction order with
  | nil => rfl
  | cons head rest ih =>
      obtain ⟨absent, tail⟩ := List.nodup_cons.mp distinct
      rw [List.flatMap_cons, List.filter_append, ih tail]
      -- What the head has found is all about the check or has nothing about it.
      by_cases same : check = head
      · subst same
        have whole : (gate.found strict check).filter (fun violation => violation.rule = check) =
            gate.found strict check :=
          List.filter_eq_self.mpr fun violation member => by
            simp [gate.found_rule strict check violation member]
        simp [whole, absent]
      · have none : (gate.found strict head).filter (fun violation => violation.rule = check) = [] :=
          List.filter_eq_nil_iff.mpr fun violation member => by
            simp [gate.found_rule strict head violation member, Ne.symm same]
        simp [none, same]

theorem violations_runInOrder [Engine] (order : List Check) :
    (gate.runInOrder strict order).violations = Violation.sort (order.flatMap (gate.found strict)) := by
  show Violation.sort ((order.map (gate.outcome strict)).flatMap Prod.snd) = _
  rw [List.flatMap_map]
  rfl

theorem checks_runInOrder [Engine] (order : List Check) :
    (gate.runInOrder strict order).checks = order.map fun check => (gate.outcome strict check).1 := by
  show (order.map (gate.outcome strict)).map Prod.fst = _
  rw [List.map_map]
  rfl

theorem violations_of_perm [Engine] (order other : List Check) (distinct : order.Nodup)
    (reordered : order.Perm other) :
    (gate.runInOrder strict order).violations = (gate.runInOrder strict other).violations := by
  rw [violations_runInOrder, violations_runInOrder]
  refine Violation.sort_eq_of_rules _ _ fun check => ?_
  rw [filter_found gate strict order distinct,
    filter_found gate strict other (reordered.nodup_iff.mp distinct)]
  simp only [reordered.mem_iff]

/-- Leaving checks out of a run leaves exactly their findings out of the report. -/
theorem violations_filter [Engine] (selects : Check → Bool) (order : List Check) (distinct : order.Nodup) :
    (gate.runInOrder strict (order.filter selects)).violations =
      (gate.runInOrder strict order).violations.filter fun violation => selects violation.rule := by
  rw [violations_runInOrder, violations_runInOrder, Violation.filter_sort]
  refine Violation.sort_eq_of_rules _ _ fun check => ?_
  have swapped : ∀ found : List Violation,
      (found.filter fun violation => selects violation.rule).filter
          (fun violation => violation.rule = check) =
        if selects check then found.filter (fun violation => violation.rule = check) else [] := by
    intro found
    rw [List.filter_filter]
    by_cases chosen : selects check = true
    · rw [if_pos chosen]
      refine List.filter_congr fun violation _ => ?_
      by_cases same : violation.rule = check <;> simp [same, chosen]
    · rw [if_neg chosen]
      refine List.filter_eq_nil_iff.mpr fun violation _ => ?_
      by_cases same : violation.rule = check <;> simp [same, chosen]
  rw [swapped, filter_found gate strict _ (distinct.filter selects),
    filter_found gate strict order distinct]
  by_cases chosen : selects check = true <;> simp [chosen]

theorem checks_filter [Engine] (selects : Check → Bool) (order : List Check) :
    (gate.runInOrder strict (order.filter selects)).checks =
      (gate.runInOrder strict order).checks.filter fun summary => selects summary.check := by
  rw [checks_runInOrder, checks_runInOrder, List.filter_map]
  refine congrArg _ (List.filter_congr fun check _ => ?_)
  exact congrArg selects (gate.outcome_counts strict check).1.symm

theorem countP_runInOrder [Engine] (order : List Check) (distinct : order.Nodup) (check : Check)
    (asked : check ∈ order) (counted : Violation → Bool) :
    (gate.runInOrder strict order).violations.countP
        (fun violation => violation.rule = check && counted violation) =
      (gate.found strict check).countP counted := by
  have own := filter_found gate strict order distinct check
  rw [if_pos asked] at own
  rw [violations_runInOrder, (Violation.sort_perm _).countP_eq, ← own, List.countP_filter]
  simp only [Bool.and_comm]

/-- A run of some checks reports exactly what the full run reports about them, whatever order they
are asked in; its summaries count what stands in its report, and a check that is skipped would have
found nothing. -/
theorem run_selected [Engine] (only order : List Check)
    (reordered : order.Perm (Check.all.filter { strict, only : RunOptions }.selects)) :
    let options : RunOptions := { strict, only }
    let full := gate.run { strict }
    let part := gate.run options
    ((gate.runInOrder strict order).violations = part.violations ∧
      (gate.runInOrder strict order).checks.Perm part.checks) ∧
    part.violations = full.violations.filter (fun violation => options.selects violation.rule) ∧
    part.checks = full.checks.filter (fun summary => options.selects summary.check) ∧
    (∀ summary ∈ part.checks,
      summary.errors = part.violations.countP (fun violation =>
        violation.rule = summary.check && violation.isError) ∧
      summary.warnings = part.violations.countP (fun violation =>
        violation.rule = summary.check && !violation.isError)) ∧
    ∀ check : Check, (check.skipReason? gate.config).isSome = true →
      check.findings (gate.context strict) = [] := by
  intro options full part
  have distinct : (Check.all.filter options.selects).Nodup := Check.all_nodup.filter _
  have everything : full = gate.runInOrder strict Check.all := rfl
  have listed : part.checks = (Check.all.filter options.selects).map
      fun check => (gate.outcome strict check).1 := checks_runInOrder gate strict _
  refine ⟨⟨?_, ?_⟩, ?_, ?_, ?_, ?_⟩
  · exact violations_of_perm gate strict order _ (reordered.nodup_iff.mpr distinct) reordered
  · rw [checks_runInOrder, listed]
    exact reordered.map _
  · rw [everything]
    exact violations_filter gate strict options.selects Check.all Check.all_nodup
  · rw [everything]
    exact checks_filter gate strict options.selects Check.all
  · intro summary member
    rw [listed] at member
    obtain ⟨check, asked, rfl⟩ := List.mem_map.mp member
    obtain ⟨own, errors, warnings⟩ := gate.outcome_counts strict check
    rw [own, errors, warnings]
    exact ⟨(countP_runInOrder gate strict _ distinct check asked _).symm,
      (countP_runInOrder gate strict _ distinct check asked _).symm⟩
  · intro check skipped
    exact Check.findings_of_skipped (gate.context strict) check skipped

def brokenGate : Gate :=
  { tree := {},
    config := { schemaVersion := 1, sourceRoot := "src", entries := ["src/a.ts"],
                extensions := [".ts"] },
    reachable :=
      { root := ⟨"/"⟩, entries := [⟨"/src/a.ts"⟩], graph := {},
        files := SortedMap.ofList [(⟨"/src/a.ts"⟩,
          { path := ⟨"/src/a.ts"⟩, relativePath := "src/a.ts", language := .typeScript,
            content := .text "import", imports := some (.error "Parse error") })] },
    registry := none }

section Examples

attribute [local instance] Engine.rough

theorem run_selected_broken :
    [Check.shell, Check.parse].Perm
      (Check.all.filter { strict := false, only := [.parse, .shell] : RunOptions }.selects) ∧
    (brokenGate.run { strict := false, only := [.parse, .shell] }).violations ≠ [] ∧
    (brokenGate.runInOrder false [.shell, .parse]).violations =
      (brokenGate.run { strict := false, only := [.parse, .shell] }).violations := by
  have reordered : [Check.shell, Check.parse].Perm
      (Check.all.filter { strict := false, only := [.parse, .shell] : RunOptions }.selects) := by
    decide
  exact ⟨reordered, by decide +kernel,
    (run_selected brokenGate false [.parse, .shell] _ reordered).1.1⟩

end Examples

end Gate

end UiContract
