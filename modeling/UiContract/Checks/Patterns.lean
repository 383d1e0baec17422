import UiContract.Checks.Context
import UiContract.PathGlobs
import UiContract.Regex
import UiContract.Violation

/-!
The `check` for patterns that must not occur in the texts of files. `compile_rules` makes a finding of each
rule that cannot be used and leaves the others alone; `scan_text` makes a finding of every occurrence that is
not empty, shown as its `snippet`.
-/
namespace UiContract

structure ScanRule where
  id : String
  regex : Regex
  hint : String
  level : Level
  spared : PathGlobs

inductive ScanRuleError where
  | pattern (id : String) (error : RegexError)
  | matchesNothing (id : String)
  | glob (refusal : PathGlobs.Refusal)
deriving DecidableEq, Repr

def ScanRuleError.message : ScanRuleError → String
  | pattern id error => "invalid pattern '" ++ id ++ "': " ++ error.message
  | matchesNothing id => "invalid pattern '" ++ id ++ "': pattern matches the empty string"
  | glob refusal => refusal.message

namespace ScanRule

def ofRule [Engine] (rule : PatternRule) (exceptions : List String) : Except ScanRuleError ScanRule :=
  match Regex.compile rule.pattern with
  | .error error => .error (.pattern rule.id error)
  | .ok regex =>
      if regex.isMatch "" then .error (.matchesNothing rule.id)
      else match PathGlobs.compile exceptions with
        | .error refusal => .error (.glob refusal)
        | .ok spared =>
            .ok { id := rule.id, regex, hint := rule.hint, level := rule.level, spared }

def spares (rule : ScanRule) (path : String) : Bool := rule.spared.accepts path

end ScanRule

structure PatternMatch where
  line : Nat
  text : String
deriving DecidableEq, Repr

namespace PatternMatch

def shownLength : Nat := 80

/-- What is shown of an occurrence: its first line without blanks around it, cut where it is long. -/
def snippet (raw : List Char) : String :=
  let line := Text.dropEnds Text.isBlank (Text.before (· == '\n') raw)
  if line.length ≤ shownLength then String.ofList line
  else String.ofList (line.take shownLength ++ ['…'])

def scan (regex : Regex) (text : String) : List PatternMatch :=
  (regex.occurrences text).map fun occurrence => ⟨occurrence.line, snippet occurrence.text⟩

end PatternMatch

namespace Checks

def unknownExceptions (patterns : PatternsSection) : List Violation :=
  (patterns.exceptions.keys.filter fun id => !patterns.rules.any fun rule => rule.id == id).map
    fun id =>
      Violation.configuration .patterns id ("exceptions name unknown rule '" ++ id ++ "'")

def scanRule [Engine] (patterns : PatternsSection) (rule : PatternRule) : Except ScanRuleError ScanRule :=
  ScanRule.ofRule rule ((patterns.exceptions.find? rule.id).getD [])

def usableRules [Engine] (patterns : PatternsSection) : List ScanRule :=
  patterns.rules.filterMap fun rule => (scanRule patterns rule).toOption

def brokenRules [Engine] (patterns : PatternsSection) : List Violation :=
  patterns.rules.filterMap fun rule =>
    match scanRule patterns rule with
    | .ok _ => none
    | .error error => some (Violation.configuration .patterns rule.id error.message)

def scanText (rule : ScanRule) (subject text : String) : List Violation :=
  if rule.spares subject then []
  else (PatternMatch.scan rule.regex text).map fun found =>
    let violation : Violation :=
      { rule := .patterns, subject, level := rule.level,
        message := rule.id ++ ": \x60" ++ found.text ++ "\x60" }
    (violation.withHint rule.hint).atLine found.line

/-- The findings about one file. Where there are no globs every file is searched. -/
def scanFile (scan : PathGlobs) (rules : List ScanRule) (file : SourceFile) : List Violation :=
  if !scan.isEmpty && !scan.accepts file.relativePath then []
  else match file.text? with
    | none => []
    | some text => rules.flatMap fun rule => scanText rule file.relativePath text

def patterns [Engine] (context : CheckContext) : List Violation :=
  match context.config.patterns with
  | none => []
  | some patterns =>
      match PathGlobs.compile patterns.scan with
      | .error refusal => [Violation.configuration .patterns "patterns.scan" refusal.message]
      | .ok scan =>
          unknownExceptions patterns ++ brokenRules patterns ++
            context.files.flatMap (scanFile scan (usableRules patterns))

end Checks

end UiContract
