import UiContract.Proofs.Compliance
import UiContract.Proofs.FollowedImports
import UiContract.Proofs.RelativePaths

/-!
Files that no check tells apart. Which spelling of a path a walk has come upon first may depend on the
order of its turns; the file under another spelling is shown alike, holds the same and imports the same
files, so every check finds the same about the two.
-/
namespace UiContract

structure SourceFile.Alike (first second : SourceFile) : Prop where
  path : first.path.components = second.path.components
  relativePath : second.relativePath = first.relativePath
  content : second.content = first.content
  failure : second.failure? = first.failure?
  imports : second.knownImports = first.knownImports.map fun edge =>
    { edge with importer := second.path }

namespace Reachability

variable (resolver : Resolver) (tree : FileTree) (sourceRoot : Path) {first second : Path}
  (same : first.components = second.components) (file : tree.isFile first = true)
  (file' : tree.isFile second = true)

include same file file'

theorem visited_knownImports : (Walk.visited resolver tree second).knownImports =
    (Walk.visited resolver tree first).knownImports.map fun edge =>
      { edge with importer := second } := by
  unfold SourceFile.knownImports Walk.visited
  rw [importsOf_congr resolver tree same file file']
  cases importsOf resolver tree first <;> rfl

theorem visited_alike (nested : tree.Nested) :
    (Walk.visited resolver tree first).Alike (Walk.visited resolver tree second) where
  path := same
  relativePath := by
    obtain ⟨name, last⟩ := tree.isFile_last nested first file
    dsimp only [Walk.visited, SourceFile.load]
    exact (Path.relativeTo_congr same name last resolver.root).symm
  content := load_content tree same file file' resolver.root
  failure := by
    unfold SourceFile.failure? Walk.visited
    rw [importsOf_congr resolver tree same file file']
    cases importsOf resolver tree first <;> rfl
  imports := visited_knownImports resolver tree same file file'

theorem draws_congr (target : Path) (kind : ImportKind) :
    Draws sourceRoot (Walk.visited resolver tree second) target kind ↔
      Draws sourceRoot (Walk.visited resolver tree first) target kind := by
  unfold Draws
  rw [visited_knownImports resolver tree same file file', List.find?_map]
  have told : leadsTo sourceRoot target ∘ (fun edge => { edge with importer := second }) =
      leadsTo sourceRoot target := rfl
  rw [told]
  simp only [Option.map_eq_some_iff, exists_exists_and_eq_and]

end Reachability

namespace Checks

section Files

variable {first second : SourceFile} (alike : first.Alike second)

include alike

theorem bannedImport_alike (rules : List BannedImportRule) :
    second.knownImports.flatMap (bannedImport rules second.relativePath) =
      first.knownImports.flatMap (bannedImport rules first.relativePath) := by
  rw [alike.imports, alike.relativePath, List.flatMap_map]
  rfl

theorem scanFile_alike (scan : PathGlobs) (rules : List ScanRule) :
    scanFile scan rules second = scanFile scan rules first := by
  unfold scanFile SourceFile.text?
  rw [alike.relativePath, alike.content]

theorem isRoute_alike (routes : Path) : isRoute routes second.path = isRoute routes first.path := by
  have parents := Path.parent_map_components alike.path
  have tested : ∀ path : Path, (path.parent?.any fun directory => directory.same routes) =
      (path.parent?.map Path.components).any (· == routes.components) := by
    intro path
    cases path.parent? <;> rfl
  unfold isRoute
  rw [tested, tested, parents, ImportEdge.language_congr alike.path]

def retold (importer : Path) (question : ImportEdge × Lookup) : ImportEdge × Lookup :=
  ({ question.1 with importer }, question.2)

theorem questions_alike (scope : Scope) (root : Path) : questions scope root second =
    (questions scope root first).map (retold second.path) := by
  unfold questions
  rw [alike.imports, List.flatMap_map, List.map_flatMap]
  refine List.flatMap_congr fun edge _ => ?_
  have target : scope.target? root { edge with importer := second.path } =
      scope.target? root edge := rfl
  rw [target]
  cases scope.target? root edge with
  | none => rfl
  | some target =>
      dsimp only
      rw [List.map_map]
      rfl

omit alike in
theorem firstQuestions_retold (importer : Path) (asked : List String)
    (all : List (ImportEdge × Lookup)) : firstQuestions asked (all.map (retold importer)) =
      (firstQuestions asked all).map (retold importer) := by
  induction all generalizing asked with
  | nil => rfl
  | cons head rest ih =>
      obtain ⟨edge, lookup⟩ := head
      have question : lookup.question { edge with importer } = lookup.question edge := by
        cases lookup <;> rfl
      rw [List.map_cons, retold, firstQuestions, firstQuestions, question]
      dsimp only
      split
      · exact ih asked
      · rw [ih]
        rfl

theorem fileCompliance_alike (registry : Registry) (scope : Scope) (context : CheckContext) :
    fileCompliance registry scope context second = fileCompliance registry scope context first := by
  show (firstQuestions [] (questions scope context.root second)).filterMap _ =
    (firstQuestions [] (questions scope context.root first)).filterMap _
  rw [questions_alike alike, firstQuestions_retold, List.filterMap_map, alike.relativePath]
  refine List.filterMap_congr fun question _ => ?_
  obtain ⟨edge, lookup⟩ := question
  cases lookup <;> rfl

end Files

section Contexts

def reentered (context : CheckContext) (entries : List String) (reachable : ReachableSet) :
    CheckContext :=
  { context with config := { context.config with entries }, reachable }

variable (context : CheckContext) (entries : List String) (reachable : ReachableSet)
  (files : List.Forall₂ SourceFile.Alike context.reachable.files.values reachable.files.values)

include files

theorem flatMap_alike (find : SourceFile → List Violation)
    (told : ∀ first second, first.Alike second → find second = find first) :
    (reentered context entries reachable).files.flatMap find = context.files.flatMap find := by
  show reachable.files.values.flatMap find = context.reachable.files.values.flatMap find
  generalize context.reachable.files.values = first, reachable.files.values = second at files
  induction files with
  | nil => rfl
  | cons alike _ ih => rw [List.flatMap_cons, List.flatMap_cons, told _ _ alike, ih]

theorem parse_reentered : parse (reentered context entries reachable) = parse context := by
  have listed : ∀ context : CheckContext, parse context = context.files.flatMap fun file =>
      (file.failure?.map fun reason => (Violation.error .parse file.relativePath reason).withHint
        "Imports of this file were not followed").toList := by
    intro context
    unfold parse ReachableSet.failures
    rw [List.map_filterMap, List.filterMap_eq_flatMap_toList]
    refine List.flatMap_congr fun file _ => ?_
    cases file.failure? <;> rfl
  rw [listed, listed]
  refine flatMap_alike context entries reachable files _ fun first second alike => ?_
  rw [alike.failure, alike.relativePath]

theorem compliance_reentered [Engine] :
    compliance (reentered context entries reachable) = compliance context := by
  have told : ∀ registry scope, (reentered context entries reachable).files.flatMap
      (fileCompliance registry scope (reentered context entries reachable)) =
        context.files.flatMap (fileCompliance registry scope context) := fun registry scope =>
    flatMap_alike context entries reachable files (fileCompliance registry scope context)
      fun _ _ alike => fileCompliance_alike alike registry scope context
  simp only [compliance, told]
  rfl

theorem patterns_reentered [Engine] :
    patterns (reentered context entries reachable) = patterns context := by
  have told : ∀ scan rules, (reentered context entries reachable).files.flatMap
      (scanFile scan rules) = context.files.flatMap (scanFile scan rules) := fun scan rules =>
    flatMap_alike context entries reachable files _ fun _ _ alike => scanFile_alike alike scan rules
  simp only [patterns, told]
  rfl

theorem bannedImports_reentered :
    bannedImports (reentered context entries reachable) = bannedImports context :=
  flatMap_alike context entries reachable files _ fun _ _ alike => bannedImport_alike alike _

theorem shell_reentered [Engine]
    (contains : ∀ path, reachable.contains path = context.reachable.contains path) :
    shell (reentered context entries reachable) = shell context := by
  have unwrapped : ∀ sect routes exempt wrapper,
      unwrappedRoutes (reentered context entries reachable) sect routes exempt wrapper =
        unwrappedRoutes context sect routes exempt wrapper := by
    intro sect routes exempt wrapper
    unfold unwrappedRoutes
    rw [List.filterMap_eq_flatMap_toList, List.filterMap_eq_flatMap_toList]
    refine flatMap_alike context entries reachable files _ fun first second alike => ?_
    unfold SourceFile.text?
    rw [isRoute_alike alike, alike.relativePath, alike.content]
  have orphans : ∀ routes exempt, orphanRoutes (reentered context entries reachable) routes exempt =
      orphanRoutes context routes exempt := by
    intro routes exempt
    unfold orphanRoutes
    show _ = List.map _ (List.filter _ (List.map _ (List.filter
      (fun path => !context.reachable.contains path) (routeFiles context.tree routes))))
    simp only [← contains]
    rfl
  simp only [shell, unwrapped, orphans]
  rfl

theorem findings_reentered [Engine]
    (contains : ∀ path, reachable.contains path = context.reachable.contains path) (check : Check) :
    check.findings (reentered context entries reachable) = check.findings context := by
  cases check with
  | parse => exact parse_reentered context entries reachable files
  | registry => exact compliance_reentered context entries reachable files
  | patterns => exact patterns_reentered context entries reachable files
  | imports => exact bannedImports_reentered context entries reachable files
  | shell => exact shell_reentered context entries reachable files contains
  | budgets => rfl
  | crossRef => rfl

end Contexts

end Checks

end UiContract
