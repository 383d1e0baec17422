import UiContract.Json.Printer
import UiContract.Json.Reader
import UiContract.Report

/-!
Reports and findings as JSON texts (`serialize_json`). A report is written with its fields in the order in
which they are declared here, without the ones that say nothing, and it can be read back.
-/
namespace UiContract

open Json

def givenField {α : Type} (name : String) (document : α → Document) :
    Option α → List (String × Document)
  | some value => [(name, document value)]
  | none => []

namespace Violation

def document (violation : Violation) : Document :=
  .object <|
    [("rule", .text violation.rule.name), ("subject", .text violation.subject),
      ("level", .text violation.level.name), ("message", .text violation.message)] ++
    givenField "hint" .text violation.hint ++ givenField "line" .natural violation.line

structure Draft where
  rule : Option Check := none
  subject : Option String := none
  level : Option Level := none
  message : Option String := none
  hint : Option (Option String) := none
  line : Option (Option Nat) := none

def fields : List (Json.Field Draft) :=
  [{ name := "rule", known := fun draft => draft.rule.isSome,
     read := fun draft => do return { draft with rule := some (← variant Check.named) } },
   { name := "subject", known := fun draft => draft.subject.isSome,
     read := fun draft => do return { draft with subject := some (← Json.text) } },
   { name := "level", known := fun draft => draft.level.isSome,
     read := fun draft => do return { draft with level := some (← variant Level.named) } },
   { name := "message", known := fun draft => draft.message.isSome,
     read := fun draft => do return { draft with message := some (← Json.text) } },
   { name := "hint", known := fun draft => draft.hint.isSome, optional := true,
     read := fun draft => do return { draft with hint := some (← optional Json.text) } },
   { name := "line", known := fun draft => draft.line.isSome, optional := true,
     read := fun draft => do return { draft with line := some (← optional size) } }]

def finish (draft : Draft) : Except String Violation := do
  let rule ← needed "rule" draft.rule
  let subject ← needed "subject" draft.subject
  let level ← needed "level" draft.level
  let message ← needed "message" draft.message
  return { rule, subject, level, message, hint := draft.hint.join, line := draft.line.join }

def record : Record Draft Violation :=
  { name := "Violation", fields, blank := {}, finish }

def ofJson (text : String) : Except String Violation := decode (Json.table record) text

end Violation

namespace CheckSummary

def document (summary : CheckSummary) : Document :=
  .object <|
    [("check", .text summary.check.name), ("errors", .natural summary.errors),
      ("warnings", .natural summary.warnings)] ++ givenField "skipped" .text summary.skipped

structure Draft where
  check : Option Check := none
  errors : Option Nat := none
  warnings : Option Nat := none
  skipped : Option (Option String) := none

def fields : List (Json.Field Draft) :=
  [{ name := "check", known := fun draft => draft.check.isSome,
     read := fun draft => do return { draft with check := some (← variant Check.named) } },
   { name := "errors", known := fun draft => draft.errors.isSome,
     read := fun draft => do return { draft with errors := some (← size) } },
   { name := "warnings", known := fun draft => draft.warnings.isSome,
     read := fun draft => do return { draft with warnings := some (← size) } },
   { name := "skipped", known := fun draft => draft.skipped.isSome, optional := true,
     read := fun draft => do return { draft with skipped := some (← optional Json.text) } }]

def finish (draft : Draft) : Except String CheckSummary := do
  let check ← needed "check" draft.check
  let errors ← needed "errors" draft.errors
  let warnings ← needed "warnings" draft.warnings
  return { check, errors, warnings, skipped := draft.skipped.join }

def record : Record Draft CheckSummary :=
  { name := "CheckSummary", fields, blank := {}, finish }

end CheckSummary

namespace ReachabilityStats

def document (stats : ReachabilityStats) : Document :=
  .object [("entries", .natural stats.entries), ("reachable_files", .natural stats.reachableFiles),
    ("followed_edges", .natural stats.followedEdges)]

structure Draft where
  entries : Option Nat := none
  reachableFiles : Option Nat := none
  followedEdges : Option Nat := none

def fields : List (Json.Field Draft) :=
  [{ name := "entries", known := fun draft => draft.entries.isSome,
     read := fun draft => do return { draft with entries := some (← size) } },
   { name := "reachable_files", known := fun draft => draft.reachableFiles.isSome,
     read := fun draft => do return { draft with reachableFiles := some (← size) } },
   { name := "followed_edges", known := fun draft => draft.followedEdges.isSome,
     read := fun draft => do return { draft with followedEdges := some (← size) } }]

def finish (draft : Draft) : Except String ReachabilityStats := do
  let entries ← needed "entries" draft.entries
  let reachableFiles ← needed "reachable_files" draft.reachableFiles
  let followedEdges ← needed "followed_edges" draft.followedEdges
  return { entries, reachableFiles, followedEdges }

def record : Record Draft ReachabilityStats :=
  { name := "ReachabilityStats", fields, blank := {}, finish }

end ReachabilityStats

namespace Report

def entries (report : Report) : List (String × Document) :=
  [("schema_version", .natural report.schemaVersion), ("strict", .boolean report.strict),
   ("reachability", report.reachability.document),
   ("checks", .array (report.checks.map CheckSummary.document)),
   ("violations", .array (report.violations.map Violation.document))]

def document (report : Report) : Document := .object report.entries

def toJson (report : Report) : String := report.document.pretty

structure Draft where
  schemaVersion : Option Nat := none
  strict : Option Bool := none
  reachability : Option ReachabilityStats := none
  checks : Option (List CheckSummary) := none
  violations : Option (List Violation) := none

def fields : List (Json.Field Draft) :=
  [{ name := "schema_version", known := fun draft => draft.schemaVersion.isSome,
     read := fun draft => do return { draft with schemaVersion := some (← natural32) } },
   { name := "strict", known := fun draft => draft.strict.isSome,
     read := fun draft => do return { draft with strict := some (← boolean) } },
   { name := "reachability", known := fun draft => draft.reachability.isSome,
     read := fun draft => do
       return { draft with reachability := some (← Json.table ReachabilityStats.record) } },
   { name := "checks", known := fun draft => draft.checks.isSome,
     read := fun draft => do return { draft with checks := some (← list (Json.table CheckSummary.record)) } },
   { name := "violations", known := fun draft => draft.violations.isSome,
     read := fun draft => do
       return { draft with violations := some (← list (Json.table Violation.record)) } }]

def finish (draft : Draft) : Except String Report := do
  let schemaVersion ← needed "schema_version" draft.schemaVersion
  let strict ← needed "strict" draft.strict
  let reachability ← needed "reachability" draft.reachability
  let checks ← needed "checks" draft.checks
  let violations ← needed "violations" draft.violations
  return { schemaVersion, strict, reachability, checks, violations }

def record : Record Draft Report :=
  { name := "Report", fields, blank := {}, finish }

def ofJson (text : String) : Except String Report := decode (Json.table record) text

end Report

end UiContract
