import UiContract.Proofs.Selection

/-!
What strictness changes. A strict run finds what a plain run finds, in the same places of its report,
and raises exactly the findings about components that the registry lists as compat.
-/
namespace UiContract

namespace Checks

def listed (entry : RegistryEntry) (subject : String) (edge : ImportEdge) (level : Level) :
    Violation :=
  let found : Violation :=
    { rule := .registry, subject, level, message := statusMessage entry, line := some edge.line }
  match entry.note with
  | some note => found.withHint note
  | none => found

theorem listed_eq (entry : RegistryEntry) (subject : String) (edge : ImportEdge) (level : Level) :
    ∃ hint, listed entry subject edge level =
      { rule := .registry, subject, level, message := statusMessage entry, line := some edge.line,
        hint } ∧ ∀ other, (listed entry subject edge other).hint = hint := by
  unfold listed
  cases entry.note with
  | none => exact ⟨none, rfl, fun _ => rfl⟩
  | some note =>
      by_cases blank : Text.isBlankText note = true
      · exact ⟨none, by simp [Violation.withHint, blank], by simp [Violation.withHint, blank]⟩
      · exact ⟨some note, by simp [Violation.withHint, blank], by simp [Violation.withHint, blank]⟩

theorem judge_listed (registry : Registry) (strict : Bool) (subject : String) (edge : ImportEdge)
    (name : String) (entry : RegistryEntry) (known : registry.find? name = some entry) :
    judge registry strict subject edge (.component name) =
      (statusLevel? strict entry.status).map (listed entry subject edge) := by
  simp only [judge, known]
  rfl

end Checks

namespace Gate

def AboutCompat (gate : Gate) (violation : Violation) : Prop :=
  ∃ registry name entry edge, gate.registry = some (.ok registry) ∧
    registry.find? name = some entry ∧ entry.status = .compat ∧
    Checks.judge registry false violation.subject edge (.component name) = some violation

/-- The findings of a plain and of a strict run that stand in one place. -/
structure Raised (gate : Gate) (plain strict : Violation) : Prop where
  rule : plain.rule = strict.rule
  subject : plain.subject = strict.subject
  line : plain.line = strict.line
  message : plain.message = strict.message
  hint : plain.hint = strict.hint
  level : (plain.level = strict.level ∧ ¬ gate.AboutCompat plain) ∨
    (plain.level = .warning ∧ strict.level = .error ∧ plain.rule = .registry ∧
      gate.AboutCompat plain)

variable (gate : Gate)

/-- Only a registry finding that is a warning can be about a compat component. -/
theorem aboutCompat_warning (violation : Violation) (about : gate.AboutCompat violation) :
    violation.rule = .registry ∧ violation.level = .warning := by
  obtain ⟨registry, name, entry, edge, _, known, compat, judged⟩ := about
  rw [Checks.judge_listed registry false _ edge name entry known, compat] at judged
  obtain ⟨hint, written, _⟩ := Checks.listed_eq entry violation.subject edge .warning
  have same : Checks.listed entry violation.subject edge .warning = violation :=
    Option.some.inj judged
  rw [← same, written]
  exact ⟨rfl, rfl⟩

theorem raised_same (violation : Violation) (apart : ¬ gate.AboutCompat violation) :
    gate.Raised violation violation :=
  ⟨rfl, rfl, rfl, rfl, rfl, Or.inl ⟨rfl, apart⟩⟩

theorem raised_of_rule (violation : Violation) (other : violation.rule ≠ .registry) :
    gate.Raised violation violation :=
  gate.raised_same violation fun about => other (gate.aboutCompat_warning violation about).1

theorem raised_of_error (violation : Violation) (error : violation.level = .error) :
    gate.Raised violation violation := by
  refine gate.raised_same violation fun about => ?_
  have warning := (gate.aboutCompat_warning violation about).2
  rw [error] at warning
  contradiction

theorem listed_raised (entry : RegistryEntry) (subject : String) (edge : ImportEdge)
    (about : gate.AboutCompat (Checks.listed entry subject edge .warning)) :
    gate.Raised (Checks.listed entry subject edge .warning)
      (Checks.listed entry subject edge .error) := by
  obtain ⟨hint, warning, hints⟩ := Checks.listed_eq entry subject edge .warning
  obtain ⟨_, error, _⟩ := Checks.listed_eq entry subject edge .error
  have same := (hints .warning).trans (hints .error).symm
  rw [warning, error] at same ⊢
  rw [warning] at about
  exact ⟨rfl, rfl, rfl, rfl, same, Or.inr ⟨rfl, rfl, rfl, about⟩⟩

/-- What is asked about a compat component is raised, and every other answer is the same. -/
theorem judge_raised (registry : Registry) (loaded : gate.registry = some (.ok registry))
    (subject : String) (edge : ImportEdge) (lookup : Checks.Lookup) :
    Option.Rel gate.Raised (Checks.judge registry false subject edge lookup)
      (Checks.judge registry true subject edge lookup) := by
  cases lookup with
  | wholeBarrel how => exact Option.Rel.some (gate.raised_of_error _ rfl)
  | component name =>
      cases known : registry.find? name with
      | none =>
          simp only [Checks.judge, known]
          exact Option.Rel.some (gate.raised_of_error _ rfl)
      | some entry =>
          have judged strict := Checks.judge_listed registry strict subject edge name entry known
          obtain ⟨_, error, _⟩ := Checks.listed_eq entry subject edge .error
          cases status : entry.status with
          | canonical =>
              rw [judged, judged, status]
              exact Option.Rel.none
          | compat =>
              obtain ⟨_, warning, _⟩ := Checks.listed_eq entry subject edge .warning
              have about : gate.AboutCompat (Checks.listed entry subject edge .warning) := by
                refine ⟨registry, name, entry, edge, loaded, known, status, ?_⟩
                have own : (Checks.listed entry subject edge .warning).subject = subject := by
                  rw [warning]
                rw [own, judged, status]
                rfl
              rw [judged, judged, status]
              exact Option.Rel.some (gate.listed_raised entry subject edge about)
          | legacy =>
              rw [judged, judged, status]
              exact Option.Rel.some (gate.raised_of_error _ (by rw [error]))
          | forbidden =>
              rw [judged, judged, status]
              exact Option.Rel.some (gate.raised_of_error _ (by rw [error]))

theorem fileCompliance_raised (registry : Registry) (loaded : gate.registry = some (.ok registry))
    (scope : Checks.Scope) (file : SourceFile) :
    List.Forall₂ gate.Raised (Checks.fileCompliance registry scope (gate.context false) file)
      (Checks.fileCompliance registry scope (gate.context true) file) := by
  refine List.rel_filterMap (R := Eq) ?_ (List.forall₂_same.mpr fun _ _ => rfl)
  rintro ⟨edge, lookup⟩ _ rfl
  exact gate.judge_raised registry loaded file.relativePath edge lookup

/-- The check of components asks the same questions at any strictness, each of them once. -/
theorem compliance_raised [Engine] :
    List.Forall₂ gate.Raised (Checks.compliance (gate.context false))
      (Checks.compliance (gate.context true)) := by
  cases configured : gate.config.registry with
  | none => simp [Checks.compliance, Gate.context, configured]
  | some part =>
      cases loaded : gate.registry with
      | none => simp [Checks.compliance, Gate.context, configured, loaded]
      | some outcome =>
          cases outcome with
          | error problem =>
              simp only [Checks.compliance, Gate.context, configured, loaded]
              exact .cons (gate.raised_of_error _ rfl) .nil
          | ok registry =>
              cases globs : PathGlobs.compile part.ignore with
              | error refusal =>
                  simp only [Checks.compliance, Gate.context, configured, loaded, globs]
                  exact .cons (gate.raised_of_error _ rfl) .nil
              | ok ignore =>
                  simp only [Checks.compliance, Gate.context, configured, loaded, globs]
                  refine List.rel_flatMap (R := Eq) (List.forall₂_same.mpr fun _ _ => rfl) ?_
                  rintro file _ rfl
                  exact gate.fileCompliance_raised registry loaded _ file

theorem findings_raised [Engine] (check : Check) :
    List.Forall₂ gate.Raised (check.findings (gate.context false))
      (check.findings (gate.context true)) := by
  by_cases registry : check = .registry
  · subst registry
    exact gate.compliance_raised
  · -- The other checks never read how strict the run is.
    have same : check.findings (gate.context true) = check.findings (gate.context false) := by
      cases check with
      | registry => contradiction
      | parse => rfl
      | patterns => rfl
      | imports => rfl
      | shell => rfl
      | budgets => rfl
      | crossRef => rfl
    rw [same]
    refine List.forall₂_same.mpr fun violation member => gate.raised_of_rule violation ?_
    rw [Check.findings_rule _ check violation member]
    exact registry

theorem found_raised [Engine] (check : Check) :
    List.Forall₂ gate.Raised (gate.found false check) (gate.found true check) := by
  unfold found outcome
  split
  · exact .nil
  · exact gate.findings_raised check

theorem any_error_of_raised (plain strict : List Violation)
    (raised : List.Forall₂ gate.Raised plain strict)
    (failed : plain.any Violation.isError = true) : strict.any Violation.isError = true := by
  induction raised with
  | nil => exact failed
  | cons pair _ ih =>
      rw [List.any_cons, Bool.or_eq_true] at failed ⊢
      rcases failed with first | later
      · refine Or.inl (beq_iff_eq.mpr ?_)
        rcases pair.level with ⟨same, _⟩ | ⟨_, error, _⟩
        · rw [← same]
          exact beq_iff_eq.mp first
        · exact error
      · exact Or.inr (ih later)

/-- A strict run differs from a plain one only in the levels of findings about compat components,
which are warnings there and errors here. -/
theorem run_strict [Engine] (only : List Check) :
    let plain := gate.run { strict := false, only }
    let strict := gate.run { strict := true, only }
    List.Forall₂ gate.Raised plain.violations strict.violations ∧
      plain.violations.length = strict.violations.length ∧ plain.exitCode ≤ strict.exitCode := by
  intro plain strict
  have raised : List.Forall₂ gate.Raised plain.violations strict.violations := by
    unfold plain strict
    rw [run_eq_runInOrder, run_eq_runInOrder, violations_runInOrder, violations_runInOrder]
    refine Violation.sort_forall₂ gate.Raised _ _ (fun before after pair =>
      ⟨pair.rule, pair.subject, pair.line, pair.message⟩) ?_
    refine List.rel_flatMap (R := Eq) (List.forall₂_same.mpr fun _ _ => rfl) ?_
    rintro check _ rfl
    exact gate.found_raised check
  refine ⟨raised, raised.length_eq, ?_⟩
  unfold Report.exitCode
  split
  · rename_i failed
    have failing : strict.hasErrors = true := gate.any_error_of_raised _ _ raised failed
    exact Nat.le_of_eq (if_pos failing).symm
  · exact Nat.zero_le _

end Gate

end UiContract
