import UiContract.Gate

/-!
What a check may say. Every finding of a check carries that check as its rule, also where something
the check needs cannot be used, and a check whose section is missing finds nothing.
-/
namespace UiContract

namespace Violation

@[simp] theorem rule_error (rule : Check) (subject message : String) :
    (error rule subject message).rule = rule := rfl

@[simp] theorem rule_warning (rule : Check) (subject message : String) :
    (warning rule subject message).rule = rule := rfl

@[simp] theorem rule_configuration (rule : Check) (subject message : String) :
    (configuration rule subject message).rule = rule := rfl

@[simp] theorem rule_withHint (violation : Violation) (hint : String) :
    (violation.withHint hint).rule = violation.rule := by
  unfold withHint
  split <;> rfl

@[simp] theorem subject_withHint (violation : Violation) (hint : String) :
    (violation.withHint hint).subject = violation.subject := by
  unfold withHint
  split <;> rfl

@[simp] theorem level_withHint (violation : Violation) (hint : String) :
    (violation.withHint hint).level = violation.level := by
  unfold withHint
  split <;> rfl

@[simp] theorem subject_error (rule : Check) (subject message : String) :
    (error rule subject message).subject = subject := rfl

@[simp] theorem level_error (rule : Check) (subject message : String) :
    (error rule subject message).level = .error := rfl

@[simp] theorem subject_warning (rule : Check) (subject message : String) :
    (warning rule subject message).subject = subject := rfl

@[simp] theorem level_warning (rule : Check) (subject message : String) :
    (warning rule subject message).level = .warning := rfl

@[simp] theorem rule_atLine (violation : Violation) (line : Nat) :
    (violation.atLine line).rule = violation.rule := rfl

end Violation

namespace Checks

variable (context : CheckContext) (violation : Violation)

theorem parse_rule (member : violation ∈ parse context) : violation.rule = .parse := by
  obtain ⟨failed, _, rfl⟩ := List.mem_map.mp member
  simp

theorem judge_rule (registry : Registry) (strict : Bool) (subject : String) (edge : ImportEdge)
    (lookup : Lookup) (found : judge registry strict subject edge lookup = some violation) :
    violation.rule = .registry := by
  cases lookup with
  | wholeBarrel how =>
      obtain rfl := Option.some.inj found
      simp
  | component name =>
      unfold judge at found
      dsimp only at found
      split at found
      · obtain rfl := Option.some.inj found
        simp
      · obtain ⟨level, _, rfl⟩ := Option.map_eq_some_iff.mp found
        split <;> simp

theorem compliance_rule [Engine] (member : violation ∈ compliance context) :
    violation.rule = .registry := by
  unfold compliance at member
  split at member
  · rw [List.mem_singleton.mp member]
    simp
  · split at member
    · rw [List.mem_singleton.mp member]
      simp
    · obtain ⟨file, _, inFile⟩ := List.mem_flatMap.mp member
      obtain ⟨question, _, found⟩ := List.mem_filterMap.mp inFile
      exact judge_rule violation _ _ _ _ _ found
  · contradiction

theorem scanText_rule (rule : ScanRule) (subject text : String)
    (member : violation ∈ scanText rule subject text) : violation.rule = .patterns := by
  unfold scanText at member
  split at member
  · contradiction
  · obtain ⟨found, _, rfl⟩ := List.mem_map.mp member
    simp

theorem patterns_rule [Engine] (member : violation ∈ patterns context) : violation.rule = .patterns := by
  unfold patterns at member
  split at member
  · contradiction
  · split at member
    · rw [List.mem_singleton.mp member]
      simp
    · rcases List.mem_append.mp member with ofRules | ofFiles
      · rcases List.mem_append.mp ofRules with unknown | broken
        · obtain ⟨id, _, rfl⟩ := List.mem_map.mp unknown
          simp
        · obtain ⟨rule, _, found⟩ := List.mem_filterMap.mp broken
          split at found
          · contradiction
          · obtain rfl := Option.some.inj found
            simp
      · obtain ⟨file, _, inFile⟩ := List.mem_flatMap.mp ofFiles
        unfold scanFile at inFile
        split at inFile
        · contradiction
        · split at inFile
          · contradiction
          · obtain ⟨rule, _, inText⟩ := List.mem_flatMap.mp inFile
            exact scanText_rule violation rule _ _ inText

theorem bannedImports_rule (member : violation ∈ bannedImports context) :
    violation.rule = .imports := by
  obtain ⟨file, _, inFile⟩ := List.mem_flatMap.mp member
  obtain ⟨edge, _, ofEdge⟩ := List.mem_flatMap.mp inFile
  unfold bannedImport at ofEdge
  split at ofEdge
  · contradiction
  · obtain ⟨rule, _, rfl⟩ := List.mem_map.mp ofEdge
    simp

theorem unwrapped_rule (shell : ShellSection) (subject : String) :
    (unwrapped shell subject).rule = .shell := by
  unfold unwrapped
  dsimp only
  split <;> simp

theorem unwrappedRoutes_rule (shell : ShellSection) (routes : Path) (exempt : PathGlobs)
    (wrapper : Regex) (member : violation ∈ unwrappedRoutes context shell routes exempt wrapper) :
    violation.rule = .shell := by
  obtain ⟨file, _, found⟩ := List.mem_filterMap.mp member
  split at found
  · contradiction
  · split at found
    · contradiction
    · split at found
      · contradiction
      · obtain rfl := Option.some.inj found
        exact unwrapped_rule shell file.relativePath

theorem orphanRoutes_rule (routes : Path) (exempt : PathGlobs)
    (member : violation ∈ orphanRoutes context routes exempt) : violation.rule = .shell := by
  unfold orphanRoutes at member
  obtain ⟨subject, _, found⟩ := List.mem_map.mp member
  rw [← found]
  simp

theorem shell_rule [Engine] (member : violation ∈ shell context) : violation.rule = .shell := by
  unfold shell at member
  split at member
  · contradiction
  · split at member
    · rw [List.mem_singleton.mp member]
      simp
    · rw [List.mem_singleton.mp member]
      simp
    · dsimp only at member
      split at member
      · rw [List.mem_singleton.mp member]
        simp
      · rcases List.mem_append.mp member with bare | orphan
        · exact unwrappedRoutes_rule context violation _ _ _ _ bare
        · exact orphanRoutes_rule context violation _ _ orphan

theorem overBudget_rule (rule : BudgetRule) (unit : String) (measured : List (String × Nat))
    (member : violation ∈ overBudget rule unit measured) : violation.rule = .budgets := by
  unfold overBudget at member
  split at member
  · dsimp only at member
    split at member
    · contradiction
    · rw [List.mem_singleton.mp member]
      simp
  · obtain ⟨entry, _, rfl⟩ := List.mem_map.mp member
    simp

theorem mapError_ok {ε ε' α : Type} (f : ε → ε') (value : α) :
    (Except.ok value : Except ε α).mapError f = .ok value := rfl

theorem mapError_error {ε ε' α : Type} (f : ε → ε') (error : ε) :
    (Except.error error : Except ε α).mapError f = .error (f error) := rfl

theorem evaluateBudget_measured [Engine] (tree : FileTree) (root : Path) (rule : BudgetRule)
    (found : List Violation) (evaluated : evaluateBudget tree root rule = .ok found) :
    ∃ unit measured, found = overBudget rule unit measured := by
  unfold evaluateBudget at evaluated
  cases compiled : PathGlobs.compile rule.files with
  | error refusal => simp [compiled, mapError_error, bind, Except.bind] at evaluated
  | ok globs =>
      cases chosen : Measure.ofRule rule with
      | error problem => simp [compiled, chosen, mapError_ok, bind, Except.bind] at evaluated
      | ok measure =>
          cases searched : budgetFiles tree root rule.files globs with
          | error error =>
              simp [compiled, chosen, searched, mapError_ok, mapError_error, bind, Except.bind] at evaluated
          | ok files =>
              simp only [compiled, chosen, searched, mapError_ok, bind, Except.bind] at evaluated
              split at evaluated
              · contradiction
              · split at evaluated
                · contradiction
                · rename_i measured _
                  exact ⟨measure.unit, measured, (Except.ok.inj evaluated).symm⟩

theorem budgets_rule [Engine] (member : violation ∈ budgets context) : violation.rule = .budgets := by
  obtain ⟨rule, _, ofRule⟩ := List.mem_flatMap.mp member
  split at ofRule
  · rename_i found evaluated
    obtain ⟨unit, measured, rfl⟩ := evaluateBudget_measured _ _ _ found evaluated
    exact overBudget_rule violation _ unit measured ofRule
  · rw [List.mem_singleton.mp ofRule]
    simp

end Checks

namespace CrossReference

variable (violation : Violation)

theorem disagreement_rule (disagreement : Disagreement) :
    disagreement.violation.rule = .crossRef := by
  cases disagreement <;> simp [Disagreement.violation]

theorem blueprintWarnings_rule (route : String) (blueprint : RouteBlueprint)
    (member : violation ∈ blueprintWarnings route blueprint) : violation.rule = .crossRef := by
  unfold blueprintWarnings at member
  rcases List.mem_append.mp member with front | key
  · rcases List.mem_append.mp front with bare | name
    · split at bare
      · rw [List.mem_singleton.mp bare]
        simp
      · contradiction
    · obtain ⟨name, _, rfl⟩ := List.mem_map.mp name
      simp
  · obtain ⟨key, _, rfl⟩ := List.mem_map.mp key
    simp

theorem validate_rule (blueprints : BlueprintTable) (shared : SharedDataTable)
    (member : violation ∈ validate blueprints shared) : violation.rule = .crossRef := by
  unfold validate at member
  rcases List.mem_append.mp member with pairs | odd
  · obtain ⟨disagreement, _, rfl⟩ := List.mem_map.mp pairs
    exact disagreement_rule disagreement
  · obtain ⟨entry, _, ofRoute⟩ := List.mem_flatMap.mp odd
    exact blueprintWarnings_rule violation entry.1 entry.2 ofRoute

theorem tableViolation_rule {α : Type} (subject : String) (table : Except TableError α)
    (member : violation ∈ tableViolation subject table) : violation.rule = .crossRef := by
  unfold tableViolation at member
  split at member
  · contradiction
  · rw [List.mem_singleton.mp member]
    simp

theorem check_rule (tree : FileTree) (root : Path) (blueprintPath sharedPath : String)
    (member : violation ∈ check tree root blueprintPath sharedPath) :
    violation.rule = .crossRef := by
  unfold check at member
  dsimp only at member
  split at member
  · exact validate_rule violation _ _ member
  · rcases List.mem_append.mp member with first | second
    · exact tableViolation_rule violation _ _ first
    · exact tableViolation_rule violation _ _ second

end CrossReference

namespace Check

/-- Every finding of a check names that check, whatever went wrong on the way. -/
theorem findings_rule [Engine] (context : CheckContext) (check : Check) (violation : Violation)
    (member : violation ∈ check.findings context) : violation.rule = check := by
  cases check with
  | parse => exact Checks.parse_rule context violation member
  | registry => exact Checks.compliance_rule context violation member
  | patterns => exact Checks.patterns_rule context violation member
  | imports => exact Checks.bannedImports_rule context violation member
  | shell => exact Checks.shell_rule context violation member
  | budgets => exact Checks.budgets_rule context violation member
  | crossRef =>
      unfold findings at member
      dsimp only at member
      split at member
      · contradiction
      · exact CrossReference.check_rule violation _ _ _ _ member

/-- A check that is skipped has nothing to say: what it looks for is the section that is missing. -/
theorem findings_of_skipped [Engine] (context : CheckContext) (check : Check)
    (skipped : (check.skipReason? context.config).isSome = true) :
    check.findings context = [] := by
  cases check with
  | parse => contradiction
  | registry =>
      have missing : context.config.registry = none := by
        simpa [skipReason?, Option.isSome_ite] using skipped
      simp [findings, Checks.compliance, missing]
  | patterns =>
      have missing : context.config.patterns = none := by
        simpa [skipReason?, Option.isSome_ite] using skipped
      simp [findings, Checks.patterns, missing]
  | imports =>
      have missing : context.config.bannedImports = [] := by
        simpa [skipReason?, Option.isSome_ite] using skipped
      simp [findings, Checks.bannedImports, Checks.bannedImport, missing]
  | shell =>
      have missing : context.config.shell = none := by
        simpa [skipReason?, Option.isSome_ite] using skipped
      simp [findings, Checks.shell, missing]
  | budgets =>
      have missing : context.config.budgets = [] := by
        simpa [skipReason?, Option.isSome_ite] using skipped
      simp [findings, Checks.budgets, missing]
  | crossRef =>
      have missing : context.config.crossRef = none := by
        simpa [skipReason?, Option.isSome_ite] using skipped
      simp [findings, missing]

end Check

end UiContract
