import UiContract.Proofs.Arguments
import UiContract.Proofs.FollowedImports
import UiContract.Proofs.Preparation
import UiContract.Proofs.ReportRoundTrip
import UiContract.Proofs.Selection
import UiContract.Proofs.ShortestChain

/-!
Runs of `main_entry`. The exit code tells whether there is a report and whether it has an error, and words
that choose the form of the answer change neither. What is printed agrees with the report and with the exit
code, in either form.
-/
namespace UiContract

namespace ReachableSet

/-- A file that was reached has a chain of imports from an entry to it, and no other path has one. -/
theorem chainTo_cases {resolver : Resolver} {tree : FileTree} {sourceRoot : String}
    {entries : List String} {reached : ReachableSet}
    (built : build resolver tree sourceRoot entries = .ok reached) (path : Path) :
    (reached.contains path = true ∧ ∃ chain, reached.chainTo path = some chain ∧
        reached.graph.Leads reached.entries path chain) ∨
      (reached.contains path = false ∧ reached.chainTo path = none) := by
  obtain ⟨walk, done, rfl, -, drawn⟩ := build_drawn resolver tree sourceRoot entries reached built
  have proper := drawn.proper
  have nodes := drawn.node_iff done path
  unfold chainTo
  dsimp only
  cases answered : walk.graph.shortestChain (entries.map (Reachability.entryPath resolver)) path with
  | some chain =>
      refine .inl ⟨nodes.mp ?_, chain, rfl, ImportGraph.shortestChain_leads proper answered⟩
      have known := (ImportGraph.shortestChain_isSome proper).mp (by rw [answered]; rfl)
      obtain ⟨goal, -, found, -⟩ := known
      rw [found]
      rfl
  | none =>
      refine .inr ⟨Bool.eq_false_iff.mpr fun known => ?_, rfl⟩
      obtain ⟨goal, found⟩ := Option.isSome_iff_exists.mp (nodes.mpr known)
      obtain ⟨earlier, route⟩ := drawn.routes path goal found
      have chain := (ImportGraph.shortestChain_isSome proper).mpr ⟨goal, earlier, found, route⟩
      rw [answered] at chain
      exact nomatch chain

end ReachableSet

namespace Report

def heading (report : Report) : String :=
  "contract-gate: " ++ toString report.reachability.reachableFiles ++ " files reachable from " ++
    toString report.reachability.entries ++ " entries (" ++
    toString report.reachability.followedEdges ++ " imports followed)\n" ++
    if report.strict then "strict mode: compat components are errors\n" else ""

def verdict (report : Report) (code : Nat) : String :=
  (if code = 0 then "PASSED" else "FAILED") ++ ": " ++
    counted (report.violations.countP Violation.isError) "error" ++ ", " ++
    counted (report.violations.countP fun violation => !violation.isError) "warning"

theorem warningCount_eq (report : Report) : report.warningCount =
    report.violations.countP fun violation => !violation.isError := by
  unfold warningCount errorCount Violation.countErrors
  rw [List.length_eq_countP_add_countP Violation.isError, Nat.add_sub_cancel_left]
  simp

theorem renderSummary_eq (report : Report) : report.renderSummary =
    report.heading ++ String.join (report.checks.map statusLine) ++ report.verdict report.exitCode := by
  have passed : (if report.exitCode = 0 then "PASSED" else "FAILED") =
      if report.hasErrors = true then "FAILED" else "PASSED" := by
    unfold exitCode
    cases report.hasErrors <;> rfl
  unfold renderSummary heading verdict
  rw [passed, warningCount_eq]
  simp only [String.append_assoc]
  rfl

theorem ended_counted (text : String) (count : Nat) :
    CommandLine.ended (text ++ counted count "warning") = text ++ counted count "warning" ++ "\n" := by
  unfold CommandLine.ended counted
  split <;> simp

theorem ended_summary (report : Report) : CommandLine.ended report.renderSummary =
    report.heading ++ String.join (report.checks.map statusLine) ++ report.verdict report.exitCode ++
      "\n" := by
  rw [renderSummary_eq, verdict, ← String.append_assoc, ended_counted]

end Report

namespace CommandLine

open Json

variable (tree : FileTree) (settings : Settings)

def configPath (root : Path) : Path :=
  match settings.config with
  | some path => ⟨path⟩
  | none => root.join GateConfig.defaultFile

/-- Why there is no report: the root leads nowhere, there is no configuration that makes sense, or an
entry of the configuration is not a file. -/
inductive Unready : Prop where
  | noRoot (nowhere : ∀ place, tree.locate ⟨settings.root⟩ ≠ .ok place)
  | noConfig (root : Path) (found : tree.canonical ⟨settings.root⟩ = .ok root) (error : ConfigError)
      (refused : GateConfig.load tree (configPath settings root) = .error error)
  | noEntry (root : Path) (found : tree.canonical ⟨settings.root⟩ = .ok root) (config : GateConfig)
      (loaded : GateConfig.load tree (configPath settings root) = .ok config) (entry : String)
      (listed : entry ∈ config.entries)
      (absent : tree.isFile (root.join entry).normalize = false)

def report? [Engine] : Option Report :=
  (prepare tree settings).toOption.map fun ready =>
    ready.2.run { strict := settings.strict, only := settings.checks }

variable {tree settings}

theorem sensible_of_load {path : Path} {config : GateConfig}
    (loaded : GateConfig.load tree path = .ok config) : config.Sensible := by
  unfold GateConfig.load at loaded
  split at loaded
  · exact nomatch loaded
  · rename_i text read
    split at loaded
    · exact nomatch loaded
    · exact GateConfig.sensible_of_ofToml text config loaded

theorem canonical_eq (path : Path) : tree.canonical path = (tree.locate path).map FileTree.pathOf := by
  unfold FileTree.canonical
  cases tree.locate path <;> rfl

variable (tree settings) in
/-- Each step can fail with a reason of its own: the root, the configuration and the gate. -/
theorem prepare_eq : prepare tree settings = do
    let root ← (tree.canonical ⟨settings.root⟩).mapError (.noRoot settings.root)
    let path := configPath settings root
    let config ← (GateConfig.load tree path).mapError (.config path)
    let gate ← (Gate.prepare tree root config).mapError .gate
    return (root, gate) := by
  unfold prepare configPath
  cases tree.canonical ⟨settings.root⟩ with
  | error reason => rfl
  | ok root =>
      dsimp only [bind, Except.bind, Except.mapError]
      cases GateConfig.load tree _ with
      | error error => rfl
      | ok config =>
          dsimp only
          cases Gate.prepare tree root config <;> rfl

variable (tree settings) in
/-- A gate is prepared where nothing stands in the way, and it is a gate of the configuration. -/
theorem prepare_cases : (Unready tree settings ∧ ∃ error, prepare tree settings = .error error) ∨
    (¬ Unready tree settings ∧ ∃ root gate, prepare tree settings = .ok (root, gate) ∧
      ∃ config, Gate.prepare tree root config = .ok gate) := by
  rw [prepare_eq]
  cases located : tree.locate ⟨settings.root⟩ with
  | error reason =>
      refine .inl ⟨.noRoot fun place found => ?_, .noRoot settings.root reason, ?_⟩
      · rw [located] at found
        contradiction
      · rw [canonical_eq, located]
        rfl
  | ok place =>
      have found : tree.canonical ⟨settings.root⟩ = .ok (FileTree.pathOf place) := by
        rw [canonical_eq, located]
        rfl
      generalize FileTree.pathOf place = root at found
      rw [found]
      cases loaded : GateConfig.load tree (configPath settings root) with
      | error error =>
          refine .inl ⟨.noConfig root found error loaded, .config (configPath settings root) error, ?_⟩
          dsimp only [bind, Except.bind, Except.mapError]
          rw [loaded]
      | ok config =>
          have ready := Gate.prepare_isOk tree root (sensible_of_load loaded)
          cases prepared : Gate.prepare tree root config with
          | error reason =>
              -- An entry that is missing is all that can be wrong with a gate.
              have missing : ¬ ∀ entry ∈ config.entries,
                  tree.isFile (root.join entry).normalize = true := by
                intro files
                obtain ⟨gate, made⟩ := ready.mpr files
                rw [prepared] at made
                contradiction
              push Not at missing
              obtain ⟨entry, listed, absent⟩ := missing
              refine .inl ⟨.noEntry root found config loaded entry listed
                (Bool.eq_false_iff.mpr absent), .gate reason, ?_⟩
              dsimp only [bind, Except.bind, Except.mapError]
              rw [loaded]
              dsimp only
              rw [prepared]
          | ok gate =>
              refine .inr ⟨?_, root, gate, ?_, config, prepared⟩
              · have files := ready.mp ⟨gate, prepared⟩
                intro unready
                cases unready with
                | noRoot nowhere => exact nowhere place located
                | noConfig other found' error refused =>
                    rw [found] at found'
                    rw [← Except.ok.inj found', loaded] at refused
                    contradiction
                | noEntry other found' config' loaded' entry listed absent =>
                    rw [found] at found'
                    rw [← Except.ok.inj found', loaded] at loaded'
                    rw [← Except.ok.inj loaded'] at listed
                    rw [← Except.ok.inj found', files entry listed] at absent
                    contradiction
              · dsimp only [bind, Except.bind, Except.mapError]
                rw [loaded]
                dsimp only
                rw [prepared]
                rfl

variable (tree) in
/-- The report depends on what is asked for and not on the form of the answer. -/
theorem report?_congr [Engine] {other : Settings} (same : settings.request = other.request) :
    report? tree settings = report? tree other := by
  obtain ⟨root, config, strict, checks, json, why, verbose, quiet⟩ := settings
  obtain ⟨root', config', strict', checks', json', why', verbose', quiet'⟩ := other
  obtain ⟨rfl, rfl, rfl, rfl⟩ := Request.mk.inj same
  rfl

theorem runSettings_code [Engine] : (runSettings tree settings).code =
    match report? tree settings with
    | some report => report.exitCode
    | none => fatalCode := by
  unfold runSettings report?
  cases prepare tree settings with
  | error error => rfl
  | ok ready =>
      dsimp only [Except.toOption, Option.map_some]
      split <;> rfl

/-- What is told about the file that was asked for, as a text and as a document: a chain of imports from
an entry where the file was reached, and else that there is none. -/
inductive Tells (gate : Gate) (root : Path) : Option String → String → Option Document → Prop where
  | nothing : Tells gate root none "" none
  | chain (target name : String) (steps : List Path) (shown : List String)
      (called : name = (root.join target).normalize.relativeTo root)
      (written : shown = steps.map fun step => step.relativeTo root)
      (reached : gate.reachable.contains (root.join target).normalize = true)
      (leads : gate.reachable.graph.Leads gate.reachable.entries (root.join target).normalize steps) :
      Tells gate root (some target) (ended ("why " ++ name ++ ":" ++ Report.chainLines 0 shown))
        (some (.object [("target", .text name), ("chain", .array (shown.map .text))]))
  | unreached (target name : String) (called : name = (root.join target).normalize.relativeTo root)
      (apart : gate.reachable.contains (root.join target).normalize = false) :
      Tells gate root (some target) (ended (name ++ " is not reachable from any entry"))
        (some (.object [("target", .text name), ("chain", .null)]))

theorem tells_explain {root : Path} {config : GateConfig} {gate : Gate}
    (prepared : Gate.prepare tree root config = .ok gate) (why : Option String) :
    let explanation := why.map (explain gate root)
    Tells gate root why
      (match explanation with
        | some explanation => ended (Report.renderChain explanation.target explanation.chain)
        | none => "")
      (explanation.map Explanation.document) := by
  obtain ⟨resolver, -, reachable, built, rfl⟩ := Gate.prepare_ok tree root config gate prepared
  intro explanation
  cases why with
  | none => exact .nothing
  | some target =>
      have cases := ReachableSet.chainTo_cases built (root.join target).normalize
      simp only [explanation, Option.map_some, explain, Explanation.document]
      obtain ⟨reached, steps, answered, leads⟩ | ⟨unreached, answered⟩ := cases
      · rw [answered]
        exact .chain target _ steps _ rfl rfl reached leads
      · rw [answered]
        exact .unreached target _ rfl unreached

/-- What a run of a gate leaves behind. The code is one where the report has an error; the summaries and
the last line count the findings of the report, and the last line agrees with the code; as JSON nothing
stands beside the report and the explanation, and the report can be read back. -/
structure Answers (settings : Settings) (root : Path) (gate : Gate) (report : Report)
    (outcome : Outcome) : Prop where
  failed : outcome.code = 1 ↔ ∃ violation ∈ report.violations, violation.isError = true
  passed : outcome.code = 0 ↔ ∀ violation ∈ report.violations, violation.isError = false
  counts : ∀ summary ∈ report.checks,
    summary.errors = report.violations.countP (fun violation =>
      violation.rule = summary.check && violation.isError) ∧
    summary.warnings = report.violations.countP (fun violation =>
      violation.rule = summary.check && !violation.isError)
  text : settings.json = false → ∃ told document, Tells gate root settings.why told document ∧
    outcome.stdout = report.heading ++ String.join (report.checks.map Report.statusLine) ++
      report.verdict outcome.code ++ "\n" ++ told
  json : settings.json = true → ∃ told document, Tells gate root settings.why told document ∧
    outcome.stdout = ended (Document.object
      (report.entries ++ (document.map fun document => ("why", document)).toList)).pretty
  violations : settings.json = true →
    ("violations", .array (report.violations.map Violation.document)) ∈ report.entries ∧
      outcome.stderr = "" ∧ (report.Fits → Report.ofJson outcome.stdout = .ok report)

theorem run_counts [Engine] (gate : Gate) (options : RunOptions) (summary : CheckSummary)
    (member : summary ∈ (gate.run options).checks) :
    summary.errors = (gate.run options).violations.countP (fun violation =>
        violation.rule = summary.check && violation.isError) ∧
      summary.warnings = (gate.run options).violations.countP (fun violation =>
        violation.rule = summary.check && !violation.isError) := by
  have distinct : (Check.all.filter options.selects).Nodup := Check.all_nodup.filter _
  rw [Gate.run_eq_runInOrder] at member ⊢
  rw [Gate.checks_runInOrder] at member
  obtain ⟨check, asked, rfl⟩ := List.mem_map.mp member
  obtain ⟨own, errors, warnings⟩ := gate.outcome_counts options.strict check
  rw [own, errors, warnings]
  exact ⟨(gate.countP_runInOrder options.strict _ distinct check asked _).symm,
    (gate.countP_runInOrder options.strict _ distinct check asked _).symm⟩

theorem runSettings_answers [Engine] {root : Path} {config : GateConfig} {gate : Gate}
    (ready : prepare tree settings = .ok (root, gate))
    (prepared : Gate.prepare tree root config = .ok gate) :
    Answers settings root gate (gate.run { strict := settings.strict, only := settings.checks })
      (runSettings tree settings) := by
  have tells := tells_explain prepared settings.why
  have counts := run_counts gate { strict := settings.strict, only := settings.checks }
  generalize ran : gate.run { strict := settings.strict, only := settings.checks } = report at counts
  have code : (runSettings tree settings).code = report.exitCode := by
    rw [runSettings_code, report?, ready, ← ran]
    rfl
  have json : settings.json = true → runSettings tree settings =
      { code := report.exitCode,
        stdout := jsonOutput report (settings.why.map (explain gate root)) } := by
    intro json
    unfold runSettings
    rw [ready, ← ran]
    dsimp only
    rw [if_pos json]
  have text : settings.json = false → (runSettings tree settings).stdout =
      (textOutput report (settings.why.map (explain gate root))).1 := by
    intro text
    unfold runSettings
    rw [ready, ← ran]
    dsimp only
    rw [if_neg (by rw [text]; exact Bool.false_ne_true)]
  refine ⟨?_, ?_, counts, fun plain => ⟨_, _, tells, ?_⟩, fun asked => ⟨_, _, tells, ?_⟩,
    fun asked => ⟨?_, ?_, fun fits => ?_⟩⟩
  · rw [code, Report.exitCode, ← List.any_eq_true, ← Report.hasErrors]
    cases report.hasErrors <;> decide
  · have none : report.hasErrors = false ↔
        ∀ violation ∈ report.violations, violation.isError = false := by
      unfold Report.hasErrors
      simp
    rw [code, Report.exitCode, ← none]
    cases report.hasErrors <;> decide
  · have whole := Report.ended_summary report
    rw [text plain, code, ← whole]
    rfl
  · rw [json asked, Option.map_map]
    rfl
  · simp [Report.entries]
  · rw [json asked]
  · rw [json asked]
    exact report.ofJson_jsonOutput fits _

/-- A run is fatal just where no report can be made, and else it answers with the report of the gate.
Words that choose the form of the answer can come and go without a change of the code or the report. -/
theorem run_accepted [Engine] (tree : FileTree) (words : List String) (settings : Settings)
    (accepted : parse words = .ok settings) :
    ((run tree words).code = 2 ↔ Unready tree settings) ∧
    (¬ Unready tree settings → ∃ root gate report, prepare tree settings = .ok (root, gate) ∧
      report = gate.run { strict := settings.strict, only := settings.checks } ∧
      report? tree settings = some report ∧ Answers settings root gate report (run tree words)) ∧
    ∀ others other, Rephrases words others → parse others = .ok other →
      (run tree others).code = (run tree words).code ∧
        report? tree other = report? tree settings := by
  have runs : ∀ words settings, parse words = .ok settings →
      run tree words = runSettings tree settings := by
    intro words settings accepted
    unfold run
    rw [accepted]
  rw [runs words settings accepted]
  refine ⟨?_, fun sound => ?_, fun others other rephrases accepted' => ?_⟩
  · rw [runSettings_code, report?]
    obtain ⟨unready, error, failed⟩ | ⟨sound, root, gate, ready, -⟩ :=
      prepare_cases tree settings
    · rw [failed]
      exact iff_of_true rfl unready
    · rw [ready]
      refine iff_of_false ?_ sound
      -- The code of a report is at most one.
      show (gate.run _).exitCode ≠ 2
      unfold Report.exitCode
      split <;> decide
  · obtain ⟨unready, -⟩ | ⟨-, root, gate, ready, config, prepared⟩ :=
      prepare_cases tree settings
    · contradiction
    · refine ⟨root, gate, _, ready, rfl, ?_, runSettings_answers ready prepared⟩
      rw [report?, ready]
      rfl
  · have same := report?_congr tree (parse_rephrases rephrases accepted accepted')
    rw [runs others other accepted', runSettings_code, runSettings_code, same]
    exact ⟨rfl, rfl⟩

section Examples

attribute [local instance] Engine.rough

theorem run_accepted_quoted : parse ["--root", "/"] = .ok { root := "/" } ∧
    (∃ report, report? Report.quotedTree { root := "/" } = some report ∧
      ∃ violation ∈ report.violations, violation.isError = true) ∧
    (run Report.quotedTree ["--json", "--root", "/", "--why=a.ts"]).code = 1 := by
  have accepted : parse ["--root", "/"] = .ok { root := "/" } := by rfl
  have accepted' : parse ["--json", "--root", "/", "--why=a.ts"] =
      .ok { root := "/", json := true, why := some "a.ts" } := by rfl
  have rephrases : Rephrases ["--root", "/"] ["--json", "--root", "/", "--why=a.ts"] :=
    .adding .json (.keep "--root" (.keep "/" (.adding (.whyValue "a.ts") .nil)))
  have computed : (run Report.quotedTree ["--root", "/"]).code = 1 := by decide +kernel
  obtain ⟨fatal, answered, same⟩ :=
    run_accepted Report.quotedTree ["--root", "/"] { root := "/" } accepted
  have sound : ¬ Unready Report.quotedTree { root := "/" } := by
    rw [← fatal, computed]
    decide
  obtain ⟨root, gate, report, -, -, behind, answers⟩ := answered sound
  refine ⟨accepted, ⟨report, behind, answers.failed.mp computed⟩, ?_⟩
  rw [(same _ _ rephrases accepted').1, computed]

end Examples

end CommandLine

end UiContract
