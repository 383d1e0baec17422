import UiContract.Violation

/-!
The report of a run: what was reached, a summary for each check, and the findings in order
(`sort_violations`). A run fails exactly when a finding is an error (`exit_code`).
-/
namespace UiContract

/-- What became of one check. A check without a section of the configuration is skipped. -/
structure CheckSummary where
  check : Check
  errors : Nat
  warnings : Nat
  skipped : Option String := none
deriving DecidableEq, Repr

structure ReachabilityStats where
  entries : Nat := 0
  reachableFiles : Nat := 0
  followedEdges : Nat := 0
deriving DecidableEq, Repr

structure Report where
  schemaVersion : Nat
  strict : Bool
  reachability : ReachabilityStats
  checks : List CheckSummary
  violations : List Violation
deriving DecidableEq, Repr

namespace Report

def currentSchemaVersion : Nat := 1

def make (strict : Bool) (reachability : ReachabilityStats) (checks : List CheckSummary)
    (violations : List Violation) : Report :=
  { schemaVersion := currentSchemaVersion, strict, reachability, checks,
    violations := Violation.sort violations }

def errorCount (report : Report) : Nat :=
  Violation.countErrors report.violations

def warningCount (report : Report) : Nat :=
  report.violations.length - report.errorCount

def hasErrors (report : Report) : Bool :=
  report.violations.any Violation.isError

def exitCode (report : Report) : Nat :=
  if report.hasErrors then 1 else 0

end Report

end UiContract
