import UiContract.Checks.Context
import UiContract.PathGlobs
import UiContract.Violation

/-!
The `check` of component imports against the registry. An import that leads below the directory of the
components (`target_of`) asks about the components that it names (`lookups`); an import of a whole index
module cannot be checked (`judge`). Within a file each question is asked once.
-/
namespace UiContract.Checks

inductive Lookup where
  | component (name : String)
  | wholeBarrel (how : String)
deriving DecidableEq, Repr

def moduleComponent (target : Path) : List Lookup :=
  (target.moduleName?.map fun name => Lookup.component (String.ofList name)).toList

def bindingLookups (target : Path) (rootBarrel : Bool) : ImportBinding → List Lookup
  | .wholeModule _ =>
      if target.isBarrel then [.wholeBarrel "namespace"] else moduleComponent target
  | .defaultExport _ moduleName =>
      if rootBarrel then [.wholeBarrel "default"] else [.component moduleName]
  | .named imported _ => [.component imported]

/-- What an import of a file asks about. The index module of the components themselves has no
component that it is named for. -/
def lookups (edge : ImportEdge) (target : Path) (rootBarrel : Bool) : List Lookup :=
  if edge.bindings.isEmpty then
    if target.isBarrel && edge.kind == .sideEffect then []
    else if rootBarrel then [.wholeBarrel "dynamic"]
    else moduleComponent target
  else edge.bindings.flatMap (bindingLookups target rootBarrel)

structure Scope where
  componentRoot : Path
  ignore : PathGlobs

def Scope.target? (scope : Scope) (root : Path) (edge : ImportEdge) : Option Path := do
  let target ← edge.resolved
  if edge.typeOnly || edge.kind == .reExport || !target.startsWith scope.componentRoot ||
      !(Language.ofPath target).isScript || scope.ignore.accepts (target.relativeTo root) then none
  else some target

def Scope.isRootBarrel (scope : Scope) (target : Path) : Bool :=
  target.isBarrel && target.parent?.any fun directory => directory.same scope.componentRoot

def statusMessage (entry : RegistryEntry) : String :=
  let status := "imports " ++ entry.name ++ " (" ++ entry.status.name ++ ")."
  match entry.replacement with
  | some replacement =>
      if Text.isBlankText replacement then status
      else status ++ " Replace with " ++ replacement ++ "."
  | none => status

def statusLevel? (strict : Bool) : ComponentStatus → Option Level
  | .canonical => none
  | .compat => some (if strict then .error else .warning)
  | .legacy => some .error
  | .forbidden => some .error

def judge (registry : Registry) (strict : Bool) (subject : String) (edge : ImportEdge) :
    Lookup → Option Violation
  | .wholeBarrel how => some <|
      ((Violation.error .registry subject
        (how ++ " import of barrel '" ++ edge.specifier ++
          "' cannot be checked against the registry")).withHint
        "Import the components by name").atLine edge.line
  | .component name =>
      match registry.find? name with
      | none => some <|
          ((Violation.error .registry subject
            ("imports " ++ name ++ ", which is not in the component registry")).withHint
            "Register the component or import a registered one").atLine edge.line
      | some entry =>
          (statusLevel? strict entry.status).map fun level =>
            let found : Violation :=
              { rule := .registry, subject, level, message := statusMessage entry,
                line := some edge.line }
            match entry.note with
            | some note => found.withHint note
            | none => found

def Lookup.question (edge : ImportEdge) : Lookup → String
  | component name => name
  | wholeBarrel how => how ++ " " ++ edge.specifier

def firstQuestions (asked : List String) :
    List (ImportEdge × Lookup) → List (ImportEdge × Lookup)
  | [] => []
  | (edge, lookup) :: rest =>
      let question := lookup.question edge
      if asked.contains question then firstQuestions asked rest
      else (edge, lookup) :: firstQuestions (question :: asked) rest

def fileCompliance (registry : Registry) (scope : Scope) (context : CheckContext)
    (file : SourceFile) : List Violation :=
  let questions := file.knownImports.flatMap fun edge =>
    match scope.target? context.root edge with
    | some target =>
        (lookups edge target (scope.isRootBarrel target)).map fun lookup => (edge, lookup)
    | none => []
  (firstQuestions [] questions).filterMap fun (edge, lookup) =>
    judge registry context.strict file.relativePath edge lookup

def compliance [Engine] (context : CheckContext) : List Violation :=
  match context.config.registry, context.registry with
  | some sect, some (.error error) =>
      [Violation.configuration .registry sect.table error.message]
  | some sect, some (.ok registry) =>
      match PathGlobs.compile sect.ignore with
      | .error refusal => [Violation.configuration .registry "registry.ignore" refusal.message]
      | .ok ignore =>
          let scope := { componentRoot := context.root.configured sect.componentRoot, ignore }
          context.files.flatMap (fileCompliance registry scope context)
  | _, _ => []

end UiContract.Checks
