import UiContract.Checks.BannedImports
import UiContract.Checks.Budgets
import UiContract.Checks.Compliance
import UiContract.Checks.Parse
import UiContract.Checks.Patterns
import UiContract.Checks.Shell
import UiContract.CrossReference
import UiContract.Report

/-!
A gate: a configuration with the files that are reached and the registry. `prepare` makes one, and every
`run` asks each of its checks and puts what they find into one report. Once a gate is prepared nothing can
fail.
-/
namespace UiContract

structure RunOptions where
  strict : Bool := false
  only : List Check := []
deriving DecidableEq, Repr

def RunOptions.selects (options : RunOptions) (check : Check) : Bool :=
  options.only.isEmpty || options.only.contains check

structure Gate where
  tree : FileTree
  config : GateConfig
  reachable : ReachableSet
  registry : Option (Except RegistryError Registry)

inductive GateError where
  | resolver (error : ResolverError)
  | reachability (error : ReachabilityError)
deriving DecidableEq, Repr

def GateError.message : GateError → String
  | resolver error => "Invalid configuration: " ++ error.message
  | reachability error => error.message

def Check.findings [Engine] (context : CheckContext) : Check → List Violation
  | parse => Checks.parse context
  | registry => Checks.compliance context
  | patterns => Checks.patterns context
  | imports => Checks.bannedImports context
  | shell => Checks.shell context
  | budgets => Checks.budgets context
  | crossRef =>
      match context.config.crossRef with
      | none => []
      | some tables =>
          CrossReference.check context.tree context.root tables.blueprints tables.sharedData

namespace Gate

def prepare (tree : FileTree) (root : Path) (config : GateConfig) : Except GateError Gate :=
  let settings : ResolverSettings :=
    { projectRoot := root, aliases := config.aliases.entries, extensions := config.extensions }
  match Resolver.make settings with
  | .error error => .error (.resolver error)
  | .ok resolver =>
      match ReachableSet.build resolver tree config.sourceRoot config.entries with
      | .error error => .error (.reachability error)
      | .ok reachable =>
          let registry := config.registry.map fun tables =>
            Registry.load tree (reachable.root.join tables.table)
          .ok { tree, config, reachable, registry }

def stats (gate : Gate) : ReachabilityStats :=
  { entries := gate.reachable.entries.length, reachableFiles := gate.reachable.size,
    followedEdges := gate.reachable.graph.edges.length }

def context (gate : Gate) (strict : Bool) : CheckContext :=
  { tree := gate.tree, root := gate.reachable.root, config := gate.config,
    reachable := gate.reachable, registry := gate.registry, strict }

def outcome [Engine] (gate : Gate) (strict : Bool) (check : Check) : CheckSummary × List Violation :=
  match check.skipReason? gate.config with
  | some reason => ({ check, errors := 0, warnings := 0, skipped := some reason }, [])
  | none =>
      let found := check.findings (gate.context strict)
      let errors := Violation.countErrors found
      ({ check, errors, warnings := found.length - errors }, found)

def run [Engine] (gate : Gate) (options : RunOptions) : Report :=
  let outcomes := (Check.all.filter options.selects).map (gate.outcome options.strict)
  Report.make options.strict gate.stats (outcomes.map Prod.fst) (outcomes.flatMap Prod.snd)

def describe (gate : Gate) : String :=
  let loaded := match gate.registry with
    | some (.ok _) => true
    | _ => false
  "Gate \x7b reachable: " ++ gate.reachable.describe ++ ", registry_loaded: " ++ toString loaded ++
    " \x7d"

end Gate

end UiContract
