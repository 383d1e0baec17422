import UiContract.Report

/-!
Reports as texts: the summary of a run (`render_summary`), its findings check by check (`render_violations`),
and the chain of imports that leads to a file (`render_chain`).
-/
namespace UiContract.Report

def counted (count : Nat) (noun : String) : String :=
  if count == 1 then "1 " ++ noun else toString count ++ " " ++ noun ++ "s"

def status (summary : CheckSummary) : String :=
  match summary.skipped with
  | some reason => "skipped (" ++ reason ++ ")"
  | none =>
      let errors := counted summary.errors "error"
      let warnings := counted summary.warnings "warning"
      if summary.errors == 0 && summary.warnings == 0 then "ok"
      else if summary.errors == 0 then "ok, " ++ warnings
      else if summary.warnings == 0 then errors
      else errors ++ ", " ++ warnings

def statusLine (summary : CheckSummary) : String :=
  "  " ++ Text.padRight 10 summary.check.name ++ " " ++ status summary ++ "\n"

def renderSummary (report : Report) : String :=
  let stats := report.reachability
  "contract-gate: " ++ toString stats.reachableFiles ++ " files reachable from " ++
    toString stats.entries ++ " entries (" ++ toString stats.followedEdges ++
    " imports followed)\n" ++
    (if report.strict then "strict mode: compat components are errors\n" else "") ++
    String.join (report.checks.map statusLine) ++
    (if report.hasErrors then "FAILED" else "PASSED") ++ ": " ++
    counted report.errorCount "error" ++ ", " ++ counted report.warningCount "warning"

def violationLines (violation : Violation) : String :=
  let location := match violation.line with
    | some line => violation.subject ++ ":" ++ toString line
    | none => violation.subject
  "  " ++ Text.padRight 7 violation.level.name ++ " " ++ location ++ ": " ++ violation.message ++
    "\n" ++ match violation.hint with
      | some hint => "          hint: " ++ hint ++ "\n"
      | none => ""

def block (check : Check) (violations : List Violation) : String :=
  check.name ++ " (" ++ toString violations.length ++ ")\n" ++
    String.join (violations.map violationLines)

def renderViolations (report : Report) : String :=
  let blocks := Check.all.filterMap fun check =>
    match report.violations.filter fun violation => violation.rule == check with
    | [] => none
    | found => some (block check found)
  Text.join "\n" blocks

def chainLines (depth : Nat) : List String → String
  | [] => ""
  | step :: rest =>
      "\n  " ++ String.ofList (List.replicate (2 * depth) ' ') ++ step ++ chainLines (depth + 1) rest

def renderChain (target : String) : Option (List String) → String
  | none => target ++ " is not reachable from any entry"
  | some chain => "why " ++ target ++ ":" ++ chainLines 0 chain

end UiContract.Report
