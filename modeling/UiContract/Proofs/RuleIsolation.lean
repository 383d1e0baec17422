import UiContract.Proofs.GlobLists
import UiContract.Proofs.Occurrences
import UiContract.Proofs.UnusableInputs

/-!
What one rule about patterns contributes to the findings of the check. It depends on the rule itself, on
the exceptions under its name and on the files that are searched; no other rule and no other exception
adds to it or takes from it, whether that one can be used or not.
-/
namespace UiContract

def PatternsSection.exceptionsOf (sect : PatternsSection) (id : String) : List String :=
  (sect.exceptions.find? id).getD []

namespace PatternRule

/-- A rule can be used: its pattern can be read and does not match the empty text, and so can the globs
of the files that it spares. -/
def Valid [Engine] (rule : PatternRule) (given : List String) : Prop :=
  (∃ regex, Regex.compile rule.pattern = .ok regex ∧ regex.isMatch "" = false) ∧
    ∃ spared, PathGlobs.compile given = .ok spared

def finding (rule : PatternRule) (subject : String) (found : Regex.Occurrence) : Violation :=
  let violation : Violation :=
    { rule := .patterns, subject, level := rule.level,
      message := rule.id ++ ": \x60" ++ PatternMatch.snippet found.text ++ "\x60" }
  (violation.withHint rule.hint).atLine found.line

end PatternRule

namespace Checks

section Labels

variable (findings : PatternRule → List Violation) (rules : List PatternRule)

/-- What is found for each rule, labelled with the place of the rule; places are counted from a number
on. -/
def labelled (findings : PatternRule → List Violation) :
    Nat → List PatternRule → List (Option Nat × Violation)
  | _, [] => []
  | place, rule :: rest => (findings rule).map (some place, ·) ++ labelled findings (place + 1) rest

def ofPlace (place : Nat) (found : List (Option Nat × Violation)) : List Violation :=
  found.filterMap fun (label, violation) => if label = some place then some violation else none

theorem labelled_findings (first : Nat) :
    (labelled findings first rules).map Prod.snd = rules.flatMap findings := by
  induction rules generalizing first with
  | nil => rfl
  | cons rule rest ih =>
      rw [labelled, List.map_append, ih, List.map_map, List.flatMap_cons]
      exact congrArg (· ++ _) (List.map_id _)

theorem ofPlace_append (place : Nat) (first second : List (Option Nat × Violation)) :
    ofPlace place (first ++ second) = ofPlace place first ++ ofPlace place second :=
  List.filterMap_append

theorem ofPlace_flatMap {Item : Type} (place : Nat) (items : List Item)
    (found : Item → List (Option Nat × Violation)) :
    ofPlace place (items.flatMap found) = items.flatMap fun item => ofPlace place (found item) :=
  List.filterMap_flatMap ..

theorem ofPlace_same (place : Nat) (found : List Violation) :
    ofPlace place (found.map (some place, ·)) = found := by
  simp [ofPlace]

theorem ofPlace_other {label : Option Nat} {place : Nat} (apart : label ≠ some place)
    (found : List Violation) : ofPlace place (found.map (label, ·)) = [] := by
  simp [ofPlace, apart]

theorem ofPlace_earlier {place first : Nat} (before : place < first) :
    ofPlace place (labelled findings first rules) = [] := by
  induction rules generalizing first with
  | nil => rfl
  | cons rule rest ih =>
      have apart : some first ≠ some place := fun same => Nat.ne_of_gt before (Option.some.inj same)
      rw [labelled, ofPlace_append, ofPlace_other apart, ih (Nat.lt_succ_of_lt before)]
      rfl

theorem ofPlace_labelled (first place : Nat) :
    ofPlace (first + place) (labelled findings first rules) =
      rules[place]?.toList.flatMap findings := by
  induction rules generalizing first place with
  | nil => rfl
  | cons rule rest ih =>
      rw [labelled, ofPlace_append]
      cases place with
      -- The labels behind the first rule are all larger than its place.
      | zero =>
          rw [Nat.add_zero, ofPlace_same, ofPlace_earlier _ _ (Nat.lt_succ_self first)]
          simp
      | succ more =>
          have apart : some first ≠ some (first + (more + 1)) := by simp
          have later := ih (first + 1) more
          rw [ofPlace_other apart, List.nil_append, List.getElem?_cons_succ, ← later,
            Nat.add_right_comm, Nat.add_assoc]

end Labels

def ruleFindings [Engine] (sect : PatternsSection) (scan : PathGlobs) (file : SourceFile) (rule : PatternRule) :
    List Violation :=
  match scanRule sect rule with
  | .error _ => []
  | .ok ready => scanFile scan [ready] file

/-- The findings of the check, each labelled with the place of the rule that it comes from. -/
def traced [Engine] (context : CheckContext) : List (Option Nat × Violation) :=
  match context.config.patterns with
  | none => []
  | some sect =>
      match PathGlobs.compile sect.scan with
      | .error refusal => [(none, Violation.configuration .patterns "patterns.scan" refusal.message)]
      | .ok scan =>
          (unknownExceptions sect).map (none, ·) ++
            labelled (fun rule => (broken? sect rule).toList) 0 sect.rules ++
            context.files.flatMap fun file => labelled (ruleFindings sect scan file) 0 sect.rules

/-- What the rule at a place contributes to the findings of the check. -/
def contributed [Engine] (context : CheckContext) (place : Nat) : List Violation :=
  ofPlace place (traced context)

section Traced

variable (sect : PatternsSection) (scan : PathGlobs) (file : SourceFile)

theorem scanFile_append (first second : List ScanRule) : scanFile scan (first ++ second) file =
    scanFile scan first file ++ scanFile scan second file := by
  unfold scanFile
  split
  · rfl
  · split
    · rfl
    · exact List.flatMap_append

theorem scanFile_usableRules [Engine] : scanFile scan (usableRules sect) file =
    sect.rules.flatMap (ruleFindings sect scan file) := by
  unfold usableRules
  induction sect.rules with
  | nil =>
      unfold scanFile
      split
      · rfl
      · split <;> rfl
  | cons rule rest ih =>
      rw [List.flatMap_cons, ← ih]
      unfold ruleFindings
      rcases made : scanRule sect rule with error | ready
      · rw [List.filterMap_cons_none (by rw [made]; rfl)]
        rfl
      · rw [List.filterMap_cons_some (by rw [made]; rfl), ← List.singleton_append, scanFile_append]

theorem traced_findings [Engine] (context : CheckContext) :
    (traced context).map Prod.snd = patterns context := by
  unfold traced patterns
  cases context.config.patterns with
  | none => rfl
  | some sect =>
      dsimp only
      cases PathGlobs.compile sect.scan with
      | error refusal => rfl
      | ok scan =>
          dsimp only
          rw [List.map_append, List.map_append, labelled_findings, List.map_flatMap, List.map_map]
          congr 1
          · congr 1
            · exact List.map_id _
            · exact List.filterMap_eq_flatMap_toList _ _ |>.symm
          · simp only [labelled_findings]
            exact List.flatMap_congr fun file _ => (scanFile_usableRules sect scan file).symm

variable {context : CheckContext} {sect scan} {place : Nat} {rule : PatternRule}

/-- A rule contributes what is said about it, and then what it finds in each of the files. -/
theorem contributed_eq [Engine] (configured : context.config.patterns = some sect)
    (compiled : PathGlobs.compile sect.scan = .ok scan) (listed : sect.rules[place]? = some rule) :
    contributed context place = (broken? sect rule).toList ++
      context.files.flatMap fun file => ruleFindings sect scan file rule := by
  have at_ (findings : PatternRule → List Violation) :
      ofPlace place (labelled findings 0 sect.rules) = findings rule := by
    have all := ofPlace_labelled findings sect.rules 0 place
    rw [Nat.zero_add, listed] at all
    rw [all]
    exact List.append_nil _
  -- Exceptions that name no rule have no label, so a rule has no part in what is said about them.
  have strays : ofPlace place ((unknownExceptions sect).map (none, ·)) = [] :=
    ofPlace_other (Option.some_ne_none place).symm _
  unfold contributed traced
  rw [configured]
  dsimp only
  rw [compiled]
  dsimp only
  rw [ofPlace_append, ofPlace_append, strays, at_, ofPlace_flatMap]
  simp only [at_]
  rfl

theorem scanRule_valid [Engine] (valid : rule.Valid (sect.exceptionsOf rule.id)) : ∃ regex spared,
    Regex.compile rule.pattern = .ok regex ∧
      PathGlobs.compile (sect.exceptionsOf rule.id) = .ok spared ∧
        scanRule sect rule = .ok ⟨rule.id, regex, rule.hint, rule.level, spared⟩ := by
  obtain ⟨⟨regex, read, filled⟩, spared, readable⟩ := valid
  refine ⟨regex, spared, read, readable, ?_⟩
  show ScanRule.ofRule rule (sect.exceptionsOf rule.id) = _
  unfold ScanRule.ofRule
  rw [read, readable]
  dsimp only
  rw [filled, if_neg Bool.false_ne_true]

theorem scanRule_invalid [Engine] (invalid : ¬ rule.Valid (sect.exceptionsOf rule.id)) :
    ∃ error, scanRule sect rule = .error error := by
  show ∃ error, ScanRule.ofRule rule (sect.exceptionsOf rule.id) = .error error
  unfold ScanRule.ofRule
  split
  · exact ⟨_, rfl⟩
  · rename_i regex read
    split
    · exact ⟨_, rfl⟩
    · rename_i filled
      split
      · exact ⟨_, rfl⟩
      · rename_i spared readable
        exact absurd ⟨⟨regex, read, Bool.eq_false_of_not_eq_true filled⟩, spared, readable⟩ invalid

end Traced

/-- A file is searched for a rule where the globs of the section choose it, or where all of them are
blank, and the rule does not spare it. -/
def Searched (sect : PatternsSection) (rule : PatternRule) (file : SourceFile) : Prop :=
  ((∀ glob ∈ sect.scan, PathFilter.normalize glob = "") ∨
      ∃ glob ∈ sect.scan, PathGlobs.Accepts glob file.relativePath) ∧
    ¬ ∃ glob ∈ sect.exceptionsOf rule.id, PathGlobs.Accepts glob file.relativePath

variable {context : CheckContext} {sect : PatternsSection} {scan : PathGlobs} {rule : PatternRule}
  {place : Nat}

/-- A rule that is ready finds its occurrences in a file that is chosen and that it does not spare. -/
theorem scanFile_ready (regex : Regex) (spared : PathGlobs) (file : SourceFile) :
    scanFile scan [⟨rule.id, regex, rule.hint, rule.level, spared⟩] file =
      if (scan.isEmpty || scan.accepts file.relativePath) && !spared.accepts file.relativePath then
        (file.text?.elim [] regex.occurrences).map (rule.finding file.relativePath)
      else [] := by
  unfold scanFile scanText ScanRule.spares PatternMatch.scan
  rw [← Bool.not_or]
  cases scan.isEmpty || scan.accepts file.relativePath with
  | false => rfl
  | true =>
      cases file.text? with
      | none => exact (ite_self _).symm
      | some text =>
          refine (List.append_nil _).trans ?_
          dsimp only
          cases spared.accepts file.relativePath with
          | true => rfl
          | false => exact List.map_map

theorem contributed_invalid [Engine] (configured : context.config.patterns = some sect)
    (compiled : PathGlobs.compile sect.scan = .ok scan) (listed : sect.rules[place]? = some rule)
    (invalid : ¬ rule.Valid (sect.exceptionsOf rule.id)) : ∃ error, scanRule sect rule = .error error ∧
      contributed context place = [Violation.configuration .patterns rule.id error.message] := by
  obtain ⟨error, failed⟩ := scanRule_invalid invalid
  refine ⟨error, failed, ?_⟩
  rw [contributed_eq configured compiled listed]
  unfold broken? ruleFindings
  rw [failed]
  dsimp only
  rw [List.flatMap_eq_nil_iff.mpr fun _ _ => rfl]
  rfl

/-- A valid rule contributes what it finds in the files that are searched for it. -/
theorem contributed_valid [Engine] (configured : context.config.patterns = some sect)
    (compiled : PathGlobs.compile sect.scan = .ok scan) (listed : sect.rules[place]? = some rule)
    (valid : rule.Valid (sect.exceptionsOf rule.id)) :
    ∃ regex, Regex.compile rule.pattern = .ok regex ∧
      ∃ searched : SourceFile → Bool, (∀ file, searched file = true ↔ Searched sect rule file) ∧
        contributed context place = (context.files.filter searched).flatMap fun file =>
          (file.text?.elim [] regex.occurrences).map (rule.finding file.relativePath) := by
  obtain ⟨regex, spared, read, readable, ready⟩ := scanRule_valid valid
  refine ⟨regex, read, fun file => (scan.isEmpty || scan.accepts file.relativePath) &&
    !spared.accepts file.relativePath, fun file => ?_, ?_⟩
  · unfold Searched
    rw [← PathGlobs.isEmpty_compiled compiled, ← PathGlobs.accepts_compiled compiled,
      ← PathGlobs.accepts_compiled readable]
    simp
  rw [contributed_eq configured compiled listed]
  unfold broken? ruleFindings
  rw [ready]
  dsimp only [Option.toList]
  rw [List.nil_append]
  induction context.files with
  | nil => rfl
  | cons file rest ih =>
      rw [List.flatMap_cons, ih, List.filter_cons, scanFile_ready]
      split <;> rfl

/-- What a rule contributes depends on nothing in the section but the rule itself, the exceptions under
its name and which files are searched. -/
theorem contributed_isolated [Engine] {other : CheckContext} {second : PatternsSection} {index : Nat}
    (reached : other.reachable = context.reachable)
    (configured : context.config.patterns = some sect)
    (otherwise : other.config.patterns = some second)
    (compiled : PathGlobs.compile sect.scan = .ok scan) (scanned : second.scan = sect.scan)
    (listed : sect.rules[place]? = some rule) (elsewhere : second.rules[index]? = some rule)
    (spared : second.exceptionsOf rule.id = sect.exceptionsOf rule.id) :
    contributed other index = contributed context place := by
  have same : scanRule second rule = scanRule sect rule := congrArg (ScanRule.ofRule rule) spared
  have files : other.files = context.files := congrArg (·.files.values) reached
  rw [contributed_eq configured compiled listed,
    contributed_eq otherwise (scanned.symm ▸ compiled) elsewhere, files]
  unfold broken? ruleFindings
  rw [same]

/-- The findings of the check are told apart by the rules that they come from. What one rule contributes
is the same in any two sections that search the same files and have the rule with the same exceptions,
whatever else they have: a valid rule contributes a finding for each occurrence that is not empty, in
the files that are searched for it, and a rule that is not valid one finding about itself. -/
theorem rule_findings_isolated [Engine] {other : CheckContext} {second : PatternsSection} {index : Nat}
    (reached : other.reachable = context.reachable)
    (configured : context.config.patterns = some sect)
    (otherwise : other.config.patterns = some second)
    (compiled : PathGlobs.compile sect.scan = .ok scan) (scanned : second.scan = sect.scan)
    (listed : sect.rules[place]? = some rule) (elsewhere : second.rules[index]? = some rule)
    (spared : second.exceptionsOf rule.id = sect.exceptionsOf rule.id) :
    (traced context).map Prod.snd = patterns context ∧
      contributed other index = contributed context place ∧
      (rule.Valid (sect.exceptionsOf rule.id) → ∃ regex, Regex.compile rule.pattern = .ok regex ∧
        (∀ text, Regex.Found regex.machine [] text.toList (regex.occurrences text)) ∧
        ∃ searched : SourceFile → Bool, (∀ file, searched file = true ↔ Searched sect rule file) ∧
          contributed context place = (context.files.filter searched).flatMap fun file =>
            (file.text?.elim [] regex.occurrences).map (rule.finding file.relativePath)) ∧
      (¬ rule.Valid (sect.exceptionsOf rule.id) → ∃ error, scanRule sect rule = .error error ∧
        contributed context place = [Violation.configuration .patterns rule.id error.message]) := by
  refine ⟨traced_findings context, contributed_isolated reached configured otherwise compiled scanned
    listed elsewhere spared, fun valid => ?_, contributed_invalid configured compiled listed⟩
  obtain ⟨regex, read, found⟩ := contributed_valid configured compiled listed valid
  exact ⟨regex, read, fun text => Regex.found_iff.mpr rfl, found⟩

def logRule : PatternRule :=
  { id := "log", pattern := "console\\.log", hint := "Use the logger", level := .warning }

def quietSection : PatternsSection := { scan := ["src/**"], rules := [logRule] }

def crowdedSection : PatternsSection :=
  { scan := ["src/**"]
    rules := [{ id := "broken", pattern := "(" }, { id := "spared", pattern := "console" }, logRule]
    exceptions := SortedMap.ofList [("spared", ["**"]), ("unknown", ["["])] }

def loggingContext (sect : PatternsSection) : CheckContext :=
  { tree := {}, root := ⟨"/"⟩
    config := { schemaVersion := 1, sourceRoot := "src", entries := [], extensions := [],
                patterns := some sect }
    reachable :=
      { root := ⟨"/"⟩, entries := [], graph := {},
        files := (SortedMap.empty).insert ⟨"/src/a.ts"⟩
          (SourceFile.ofText ⟨"/"⟩ ⟨"/src/a.ts"⟩ "\nconsole.log(1);\n") } }

section Examples

attribute [local instance] Engine.rough

theorem logRule_isolated :
    (PathGlobs.compile ["src/**"]).isOk = true ∧
      crowdedSection.exceptionsOf "log" = quietSection.exceptionsOf "log" ∧
      contributed (loggingContext crowdedSection) 2 = contributed (loggingContext quietSection) 0 ∧
      contributed (loggingContext quietSection) 0 =
        [⟨.patterns, "src/a.ts", .warning, "log: \x60console.log\x60", some "Use the logger", some 2⟩] := by
  have readable : (PathGlobs.compile ["src/**"]).isOk = true := by decide +kernel
  have spared : crowdedSection.exceptionsOf "log" = quietSection.exceptionsOf "log" := by
    decide +kernel
  have reached : (loggingContext crowdedSection).reachable =
      (loggingContext quietSection).reachable := rfl
  have configured : (loggingContext quietSection).config.patterns = some quietSection := rfl
  have otherwise : (loggingContext crowdedSection).config.patterns = some crowdedSection := rfl
  have listed : quietSection.rules[0]? = some logRule := rfl
  have elsewhere : crowdedSection.rules[2]? = some logRule := rfl
  cases compiled : PathGlobs.compile ["src/**"] with
  | error refusal =>
      rw [compiled] at readable
      contradiction
  | ok scan =>
      have isolated := rule_findings_isolated reached configured otherwise compiled rfl listed
        elsewhere spared
      exact ⟨rfl, spared, isolated.2.1, by decide +kernel⟩

end Examples

end Checks

end UiContract
