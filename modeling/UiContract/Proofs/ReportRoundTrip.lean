import UiContract.CommandLine
import UiContract.Proofs.JsonDocuments

/-!
Reports that are written and read back. Whatever the texts of a report are, and whatever the command adds
to it, reading the JSON text gives the report again; only its numbers have to be small enough.
-/
namespace UiContract

open Json

variable {depth : Nat}

def Small (number : Nat) : Prop := number < UInt64.size

instance (number : Nat) : Decidable (Small number) := inferInstanceAs (Decidable (_ < _))

namespace Violation

def Fits (violation : Violation) : Prop := ∀ line, violation.line = some line → Small line

instance (violation : Violation) : Decidable violation.Fits :=
  inferInstanceAs (Decidable (∀ line ∈ violation.line, Small line))

theorem written (violation : Violation) (fits : violation.Fits) :
    Written (Json.table record) (depth + 2) violation.document violation := by
  obtain ⟨rule, subject, level, message, hint, line⟩ := violation
  have ruleKnown : Check.named.find? (fun entry => entry.1 == rule.name) = some (rule.name, rule) := by
    cases rule <;> rfl
  have levelKnown : Level.named.find? (fun entry => entry.1 == level.name) =
      some (level.name, level) := by
    cases level <;> rfl
  apply written_table record _
    { rule := some rule, subject := some subject, level := some level, message := some message,
      hint := hint.map some, line := line.map some }
  · refine .put rfl rfl rfl (written_variant Check.named rule.name rule ruleKnown) ?_
    refine .put rfl rfl rfl (written_text subject) ?_
    refine .put rfl rfl rfl (written_variant Level.named level.name level levelKnown) ?_
    refine .put rfl rfl rfl (written_text message) ?_
    -- A field without a value is not written.
    cases hint with
    | none =>
        cases line with
        | none => exact .nil _
        | some line =>
            refine .put rfl rfl rfl (written_optionalNatural _ _ line (fits line rfl) ?_) (.nil _)
            exact Nat.le_refl _
    | some hint =>
        refine .put rfl rfl rfl (written_optionalText hint) ?_
        cases line with
        | none => exact .nil _
        | some line =>
            refine .put rfl rfl rfl (written_optionalNatural _ _ line (fits line rfl) ?_) (.nil _)
            exact Nat.le_refl _
  · cases hint <;> cases line <;> rfl

end Violation

namespace CheckSummary

structure Fits (summary : CheckSummary) : Prop where
  errors : Small summary.errors
  warnings : Small summary.warnings

instance (summary : CheckSummary) : Decidable summary.Fits :=
  decidable_of_iff (Small summary.errors ∧ Small summary.warnings)
    ⟨fun ⟨errors, warnings⟩ => ⟨errors, warnings⟩, fun fits => ⟨fits.errors, fits.warnings⟩⟩

theorem written (summary : CheckSummary) (fits : summary.Fits) :
    Written (Json.table record) (depth + 2) summary.document summary := by
  obtain ⟨check, errors, warnings, skipped⟩ := summary
  have known : Check.named.find? (fun entry => entry.1 == check.name) = some (check.name, check) := by
    cases check <;> rfl
  apply written_table record _
    { check := some check, errors := some errors, warnings := some warnings,
      skipped := skipped.map some }
  · refine .put rfl rfl rfl (written_variant Check.named check.name check known) ?_
    refine .put rfl rfl rfl (written_natural _ _ errors fits.errors (Nat.le_refl _)) ?_
    refine .put rfl rfl rfl (written_natural _ _ warnings fits.warnings (Nat.le_refl _)) ?_
    cases skipped with
    | none => exact .nil _
    | some reason => exact .put rfl rfl rfl (written_optionalText reason) (.nil _)
  · cases skipped <;> rfl

end CheckSummary

namespace ReachabilityStats

structure Fits (stats : ReachabilityStats) : Prop where
  entries : Small stats.entries
  reachableFiles : Small stats.reachableFiles
  followedEdges : Small stats.followedEdges

instance (stats : ReachabilityStats) : Decidable stats.Fits :=
  decidable_of_iff (Small stats.entries ∧ Small stats.reachableFiles ∧ Small stats.followedEdges)
    ⟨fun ⟨entries, files, edges⟩ => ⟨entries, files, edges⟩,
      fun fits => ⟨fits.entries, fits.reachableFiles, fits.followedEdges⟩⟩

theorem written (stats : ReachabilityStats) (fits : stats.Fits) :
    Written (Json.table record) (depth + 2) stats.document stats := by
  apply written_table record _
    { entries := some stats.entries, reachableFiles := some stats.reachableFiles,
      followedEdges := some stats.followedEdges }
  · refine .put rfl rfl rfl (written_natural _ _ stats.entries fits.entries (Nat.le_refl _)) ?_
    refine .put rfl rfl rfl
      (written_natural _ _ stats.reachableFiles fits.reachableFiles (Nat.le_refl _)) ?_
    exact .put rfl rfl rfl
      (written_natural _ _ stats.followedEdges fits.followedEdges (Nat.le_refl _)) (.nil _)
  · rfl

end ReachabilityStats

namespace Report

structure Fits (report : Report) : Prop where
  version : report.schemaVersion < UInt32.size
  reachability : report.reachability.Fits
  checks : ∀ summary ∈ report.checks, summary.Fits
  violations : ∀ violation ∈ report.violations, violation.Fits

instance (report : Report) : Decidable report.Fits :=
  decidable_of_iff (report.schemaVersion < UInt32.size ∧ report.reachability.Fits ∧
      (∀ summary ∈ report.checks, summary.Fits) ∧ ∀ violation ∈ report.violations, violation.Fits)
    ⟨fun ⟨version, stats, checks, violations⟩ => ⟨version, stats, checks, violations⟩,
      fun fits => ⟨fits.version, fits.reachability, fits.checks, fits.violations⟩⟩

theorem forall₂_documents {α : Type} {reading : Reading α} (document : α → Document) (items : List α)
    (each : ∀ item ∈ items, Written reading depth (document item) item) :
    List.Forall₂ (Written reading depth) (items.map document) items := by
  rw [List.forall₂_map_left_iff, List.forall₂_same]
  exact each

/-- What stands behind the fields of a report changes nothing, as long as no field is called so. -/
theorem written (report : Report) (fits : report.Fits) (more : List (String × Document))
    (unknown : ∀ entry ∈ more, entry.1 ∉ record.fieldNames) :
    Written (Json.table record) (depth + 6) (.object (report.entries ++ more)) report := by
  apply written_table record _
    { schemaVersion := some report.schemaVersion, strict := some report.strict,
      reachability := some report.reachability, checks := some report.checks,
      violations := some report.violations }
  · refine .put rfl rfl rfl
      (written_natural _ _ report.schemaVersion fits.version (by decide)) ?_
    refine .put rfl rfl rfl (written_boolean report.strict) ?_
    refine .put rfl rfl rfl (report.reachability.written fits.reachability) ?_
    refine .put rfl rfl rfl (written_list _ report.checks (forall₂_documents _ _ ?_)) ?_
    · exact fun summary member => summary.written (fits.checks summary member)
    · refine .put rfl rfl rfl (written_list _ report.violations (forall₂_documents _ _ ?_)) ?_
      · exact fun violation member => violation.written (fits.violations violation member)
      · exact .unknown rfl more unknown _
  · rfl

theorem ended_toList (text : String) : ∃ tail : List Char,
    (CommandLine.ended text).toList = text.toList ++ tail ∧
      (∀ character ∈ tail, isBlank character = true) ∧ Ends tail := by
  unfold CommandLine.ended
  split
  · exact ⟨[], (List.append_nil _).symm, nofun, nofun⟩
  · refine ⟨['\n'], by simp, by simp [isBlank], ?_⟩
    intro character first
    right
    exact (Option.some.inj first).symm

theorem ofJson_jsonOutput (report : Report) (fits : report.Fits)
    (explanation : Option CommandLine.Explanation) :
    ofJson (CommandLine.jsonOutput report explanation) = .ok report := by
  unfold ofJson CommandLine.jsonOutput
  dsimp only
  obtain ⟨tail, shape, blank, ends⟩ := ended_toList (Document.object (report.entries ++
    (explanation.map fun explanation => ("why", explanation.document)).toList)).pretty
  refine decode_pretty _ report (report.written fits _ ?_) _ tail shape blank ends
  intro entry member
  cases explanation with
  | none => contradiction
  | some explanation =>
      rw [List.mem_singleton.mp member]
      exact (by decide : "why" ∉ record.fieldNames)

/-- Writing a report and reading it back changes nothing, whatever its texts hold: as it is, as the
command prints it with or without an explanation, and so for the report of every run. A single finding
is read back as well. -/
theorem ofJson_written [Engine] (report : Report) (fits : report.Fits) :
    ofJson report.toJson = .ok report ∧
    (∀ explanation, ofJson (CommandLine.jsonOutput report explanation) = .ok report) ∧
    (∀ tree words settings root gate, CommandLine.parse words = .ok settings →
      settings.json = true → CommandLine.prepare tree settings = .ok (root, gate) →
      gate.run { strict := settings.strict, only := settings.checks } = report →
      ofJson (CommandLine.run tree words).stdout = .ok report) ∧
    ∀ violation : Violation, violation.Fits →
      Violation.ofJson violation.document.pretty = .ok violation := by
  have printed := report.ofJson_jsonOutput fits
  refine ⟨?_, printed, ?_, ?_⟩
  · have written : Written (Json.table record) 128 (.object (report.entries ++ [])) report :=
      report.written fits [] nofun
    rw [List.append_nil] at written
    exact decode_pretty _ report written _ [] (List.append_nil _).symm nofun nofun
  · intro tree words settings root gate accepted json prepared ran
    unfold CommandLine.run CommandLine.runSettings
    rw [accepted]
    dsimp only
    rw [prepared]
    dsimp only
    rw [if_pos json, ran]
    exact printed _
  · intro violation small
    exact decode_pretty _ violation (violation.written small) _ []
      (List.append_nil _).symm nofun nofun

def quotedTree : FileTree :=
  (FileTree.add {} [['a', '.', 't', 's']] (.file [])).add [GateConfig.defaultFile.toList]
    (.file (Text.encode ("source_root = '.'\nentries = ['a.ts']\n[registry]\n" ++
      "table = \"t\\\"\\u0001.json\"\ncomponent_root = 'ui'\n").toList))

section Examples

attribute [local instance] Engine.rough

theorem ofJson_written_quoted : ∃ report, report.Fits ∧ report.violations ≠ [] ∧
    ofJson (CommandLine.run quotedTree ["--json", "--root", "/", "--why=a.ts"]).stdout =
      .ok report ∧
    ∀ violation ∈ report.violations,
      Violation.ofJson violation.document.pretty = .ok violation := by
  let settings : CommandLine.Settings := { root := "/", json := true, why := some "a.ts" }
  have accepted : CommandLine.parse ["--json", "--root", "/", "--why=a.ts"] = .ok settings := by
    rfl
  have computed : (CommandLine.prepare quotedTree settings).toOption.any (fun ready =>
      decide (ready.2.run {}).Fits && !(ready.2.run {}).violations.isEmpty) = true := by
    decide +kernel
  cases prepared : CommandLine.prepare quotedTree settings with
  | error error =>
      rw [prepared] at computed
      exact nomatch computed
  | ok ready =>
      obtain ⟨root, gate⟩ := ready
      rw [prepared] at computed
      have known : (decide (gate.run {}).Fits && !(gate.run {}).violations.isEmpty) = true := computed
      rw [Bool.and_eq_true, decide_eq_true_eq] at known
      obtain ⟨-, -, run, single⟩ := ofJson_written (gate.run {}) known.1
      refine ⟨gate.run {}, known.1, by simpa using known.2, ?_, ?_⟩
      · exact run quotedTree _ settings root gate accepted rfl prepared rfl
      · exact fun violation member => single violation (known.1.violations violation member)

end Examples

end Report

end UiContract
