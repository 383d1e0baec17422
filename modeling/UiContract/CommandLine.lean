import UiContract.CommandLine.Parsing
import UiContract.Gate
import UiContract.Report.Format
import UiContract.Report.Text

/-!
The command, as `main_entry` runs it: a gate of the project at a root is prepared and run, and its report is
printed. The exit code is zero for a report without errors, one for a report with errors, and two where there
is no report.
-/
namespace UiContract.CommandLine

/-- What a run of the command hands to the two outputs, and its exit code where they take it. A write
that fails, which ends the run with `fatalCode`, has no place here. -/
structure Outcome where
  code : Nat
  stdout : String := ""
  stderr : String := ""
deriving DecidableEq, Repr

def fatalCode : Nat := 2

inductive FatalError where
  | noRoot (root : String) (reason : FileError)
  | config (path : Path) (error : ConfigError)
  | gate (error : GateError)
deriving DecidableEq, Repr

/-- The reason in words. Why a file cannot be read is said once more behind all else. -/
def FatalError.message : FatalError → String
  | noRoot root reason => "project root " ++ root ++ " does not exist: " ++ reason.message
  | config path error =>
      "failed to load " ++ path.text ++ ": " ++ error.message ++ match error with
        | .unreadable _ reason => ": " ++ reason.message
        | _ => ""
  | gate error => "failed to build the reachable set: " ++ error.message

structure Explanation where
  target : String
  chain : Option (List String)
deriving DecidableEq, Repr

def explain (gate : Gate) (root : Path) (target : String) : Explanation :=
  let path := (root.join target).normalize
  { target := path.relativeTo root,
    chain := (gate.reachable.chainTo path).map fun chain => chain.map fun step => step.relativeTo root }

def Explanation.document (explanation : Explanation) : Json.Document :=
  .object [("target", .text explanation.target),
    ("chain", match explanation.chain with
      | some chain => .array (chain.map .text)
      | none => .null)]

def ended (text : String) : String :=
  if text.toList.getLast? == some '\n' then text else text ++ "\n"

def jsonOutput (report : Report) (explanation : Option Explanation) : String :=
  let why := explanation.map fun explanation => ("why", explanation.document)
  ended (Json.Document.object (report.entries ++ why.toList)).pretty

def textOutput (report : Report) (explanation : Option Explanation) : String × String :=
  let chain := match explanation with
    | some explanation => ended (Report.renderChain explanation.target explanation.chain)
    | none => ""
  let violations := report.renderViolations
  (ended report.renderSummary ++ chain, if violations == "" then "" else ended violations)

def prepare (tree : FileTree) (settings : Settings) : Except FatalError (Path × Gate) := do
  let root ← match tree.canonical ⟨settings.root⟩ with
    | .ok root => .ok root
    | .error reason => .error (.noRoot settings.root reason)
  let path := match settings.config with
    | some path => Path.mk path
    | none => root.join GateConfig.defaultFile
  let config ← match GateConfig.load tree path with
    | .ok config => .ok config
    | .error error => .error (.config path error)
  match Gate.prepare tree root config with
  | .ok gate => .ok (root, gate)
  | .error error => .error (.gate error)

def runSettings [Engine] (tree : FileTree) (settings : Settings) : Outcome :=
  match prepare tree settings with
  | .error error => { code := fatalCode, stderr := command ++ ": " ++ error.message ++ "\n" }
  | .ok (root, gate) =>
      let report := gate.run { strict := settings.strict, only := settings.checks }
      let explanation := settings.why.map (explain gate root)
      if settings.json then { code := report.exitCode, stdout := jsonOutput report explanation }
      else
        let (stdout, stderr) := textOutput report explanation
        { code := report.exitCode, stdout, stderr }

def run [Engine] (tree : FileTree) (words : List String) : Outcome :=
  match parse words with
  | .error .help => { code := 0, stdout := helpText }
  | .error .version => { code := 0, stdout := versionText }
  | .error (.error error) => { code := fatalCode, stderr := error.message }
  | .ok settings => runSettings tree settings

end UiContract.CommandLine
