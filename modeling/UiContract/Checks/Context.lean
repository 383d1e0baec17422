import UiContract.Config
import UiContract.Graph.Reachability
import UiContract.Registry

/-!
What a check may look at, with the paths that `resolve` and `rel` give, and why a check has nothing to do
(`skip_reason`).
-/
namespace UiContract

/-- Everything that a check may look at. There is a registry, or a reason why it cannot be used, where
the configuration has a section for it. -/
structure CheckContext where
  tree : FileTree
  root : Path
  config : GateConfig
  reachable : ReachableSet
  registry : Option (Except RegistryError Registry) := none
  strict : Bool := false

def CheckContext.files (context : CheckContext) : List SourceFile :=
  context.reachable.files.values

def CheckContext.relative (context : CheckContext) (path : Path) : String :=
  path.relativeTo context.root

def Check.skipReason? (config : GateConfig) : Check → Option String
  | parse => none
  | registry => if config.registry.isNone then some "no [registry] section" else none
  | patterns => if config.patterns.isNone then some "no [patterns] section" else none
  | imports => if config.bannedImports.isEmpty then some "no [[banned_imports]] rules" else none
  | shell => if config.shell.isNone then some "no [shell] section" else none
  | budgets => if config.budgets.isEmpty then some "no [[budgets]] rules" else none
  | crossRef => if config.crossRef.isNone then some "no [cross_ref] section" else none

end UiContract
