import UiContract.Proofs.Compliance
import UiContract.Proofs.EntryOrder
import UiContract.Proofs.Findings
import UiContract.Proofs.GlobLists
import UiContract.Proofs.RouteFiles

/-!
What the check of routes says, `orphan_routes` included. Reached files and the files of the directory are
gone through one after the other, and still each script file of the directory is judged once: where no glob
exempts it, it is either reached and searched for a wrapper, or reported as an orphan.
-/
namespace UiContract

open Regex (sizeLimit)

section Lists

variable {Item Found Key : Type} [DecidableEq Key]

theorem filter_key (key : Item → Key) {items : List Item} {item : Item} (member : item ∈ items)
    (apart : items.Pairwise fun first second => key first ≠ key second) :
    (items.filter fun other => key other = key item) = [item] := by
  induction items with
  | nil => contradiction
  | cons head rest ih =>
      obtain ⟨first, others⟩ := List.pairwise_cons.mp apart
      rcases List.mem_cons.mp member with rfl | later
      · have none : (rest.filter fun other => key other = key item) = [] :=
          List.filter_eq_nil_iff.mpr fun other inside => by simpa using (first other inside).symm
        rw [List.filter_cons_of_pos (by simp), none]
      · rw [List.filter_cons_of_neg (by simpa using first item later), ih later others]

/-- What is found about some items, where findings tell which items they are about. -/
theorem filter_filterMap_of (find : Item → Option Found) (about : Found → Bool) (wanted : Item → Bool)
    (items : List Item)
    (agree : ∀ item ∈ items, ∀ found, find item = some found → about found = wanted item) :
    (items.filterMap find).filter about = (items.filter wanted).filterMap find := by
  induction items with
  | nil => rfl
  | cons item rest ih =>
      obtain ⟨first, others⟩ := List.forall_mem_cons.mp agree
      rw [List.filterMap_cons, List.filter_cons]
      cases held : find item with
      | none =>
          dsimp only
          rw [ih others]
          split
          · rw [List.filterMap_cons_none held]
          · rfl
      | some found =>
          dsimp only
          rw [List.filter_cons, first found held, ih others]
          split
          · rw [List.filterMap_cons_some held]
          · rfl

end Lists

namespace ReachableSet

open Reachability

variable {resolver : Resolver} {tree : FileTree} {sourceRoot : String} {entries : List String}
  {reached : ReachableSet} (built : build resolver tree sourceRoot entries = .ok reached)

include built

theorem contains_iff_value (path : Path) : reached.contains path = true ↔
    ∃ file ∈ reached.files.values, file.path.components = path.components := by
  unfold contains
  rw [SortedMap.contains_iff]
  constructor
  · rintro ⟨⟨key, value⟩, held, same⟩
    obtain ⟨rfl, -⟩ := build_entry built held
    exact ⟨_, List.mem_map_of_mem held, ((Path.compare_eq_iff _ _).mp same).symm⟩
  · rintro ⟨file, member, same⟩
    obtain ⟨⟨key, value⟩, held, rfl⟩ := List.mem_map.mp member
    obtain ⟨rfl, -⟩ := build_entry built held
    exact ⟨_, held, (Path.compare_eq_iff _ _).mpr same.symm⟩

end ReachableSet

namespace Checks

def orphaned (subject : String) : Violation :=
  (Violation.warning .shell subject "orphan route: not reachable from any entry").withHint
    "Register the route or delete the file"

def routeFindings (context : CheckContext) (shell : ShellSection) (exempt : PathGlobs) (wrapper : Regex)
    (path : Path) (bytes : List UInt8) : List Violation :=
  let subject := context.relative path
  if exempt.accepts subject then []
  else if context.reachable.contains path then
    match Text.decode? bytes with
    | some text => if wrapper.isMatch (String.ofList text) then [] else [unwrapped shell subject]
    | none => []
  else [orphaned subject]

theorem unwrapped_subject (shell : ShellSection) (subject : String) :
    (unwrapped shell subject).subject = subject := by
  unfold unwrapped
  dsimp only
  split <;> simp

theorem orphaned_subject (subject : String) : (orphaned subject).subject = subject := by
  simp [orphaned]

section Searches

variable (context : CheckContext) (shell : ShellSection) (routes : Path) (exempt : PathGlobs)
  (wrapper : Regex)

def unwrapped? (file : SourceFile) : Option Violation :=
  if !isRoute routes file.path || exempt.accepts file.relativePath then none
  else match file.text? with
    | none => none
    | some text => if wrapper.isMatch text then none else some (unwrapped shell file.relativePath)

def orphaned? (path : Path) : Option Violation :=
  if context.reachable.contains path || exempt.accepts (context.relative path) then none
  else some (orphaned (context.relative path))

theorem orphanRoutes_eq : orphanRoutes context routes exempt =
    (routeFiles context.tree routes).filterMap (orphaned? context exempt) := by
  unfold orphanRoutes
  dsimp only
  induction routeFiles context.tree routes with
  | nil => rfl
  | cons path rest ih =>
      rw [List.filterMap_cons, ← ih]
      unfold orphaned?
      cases reached : context.reachable.contains path
      · cases exempted : exempt.accepts (context.relative path) <;>
          simp [reached, exempted, orphaned]
      · simp [reached]

variable {context shell routes exempt wrapper}

theorem unwrapped_eq_some {file : SourceFile} {violation : Violation}
    (found : unwrapped? shell routes exempt wrapper file = some violation) :
    isRoute routes file.path = true ∧ exempt.accepts file.relativePath = false ∧
      violation = unwrapped shell file.relativePath := by
  unfold unwrapped? at found
  split at found
  · contradiction
  · rename_i judged
    obtain ⟨route, counted⟩ : isRoute routes file.path = true ∧
        exempt.accepts file.relativePath = false := by simpa using judged
    split at found
    · contradiction
    · rw [Option.ite_none_left_eq_some] at found
      exact ⟨route, counted, (Option.some.inj found.2).symm⟩

theorem orphaned_eq_some {path : Path} {violation : Violation} :
    orphaned? context exempt path = some violation ↔ context.reachable.contains path = false ∧
      exempt.accepts (context.relative path) = false ∧ violation = orphaned (context.relative path) := by
  unfold orphaned?
  rw [Option.ite_none_left_eq_some, Bool.or_eq_true, not_or, Bool.not_eq_true, Bool.not_eq_true,
    Option.some.injEq, eq_comm (b := violation), and_assoc]

end Searches

section Reached

open FileTree ReachableSet Reachability

variable {context : CheckContext} {resolver : Resolver} {sourceRoot : String} {entries : List String}
  (built : build resolver context.tree sourceRoot entries = .ok context.reachable)
  (rooted : context.root = resolver.root)

/-- What a reached file right in a directory reads as is what the directory holds. -/
theorem text_of_child (resolver : Resolver) {tree : FileTree} {routes path : Path} {place : List Name}
    {name : Name} {bytes : List UInt8} (located : tree.locate routes = .ok place)
    (held : tree.entry? (place ++ [name]) = some (.file bytes))
    (lies : path.components = routes.components ++ [.normal name]) (file : tree.isFile path = true) :
    (Walk.visited resolver tree path).text? = (Text.decode? bytes).map String.ofList := by
  have read : tree.readBytes path = .ok bytes := by
    obtain ⟨others, read⟩ := (tree.isFile_iff path).mp file
    obtain ⟨final, found, held'⟩ := tree.look_ok path _ ((tree.readBytes_ok path others).mp read)
    rw [tree.locate_child lies held rfl located found, held] at held'
    rw [read, Entry.file.inj (Option.some.inj held')]
  unfold Walk.visited SourceFile.load SourceFile.text? SourceFile.contentOf
  dsimp only
  rw [read]
  dsimp only
  cases Text.decode? bytes with
  | some text => rfl
  | none =>
      dsimp only
      split
      · rename_i same
        split at same <;> contradiction
      · rfl

include built rooted

theorem relativePath_of_value {file : SourceFile} (member : file ∈ context.files) :
    file.relativePath = context.relative file.path := by
  obtain ⟨-, read, -⟩ := build_value built member
  have shown := congrArg SourceFile.relativePath read
  unfold Walk.visited SourceFile.load at shown
  dsimp only at shown
  rw [CheckContext.relative, rooted]
  exact shown

variable {shell : ShellSection} {routes path : Path} {exempt : PathGlobs} {wrapper : Regex} {name : Name}
  (lies : path.components = routes.components ++ [.normal name])

include lies

omit built rooted in
/-- Of the files right in the directory of the routes, those that are shown alike are one. -/
theorem relative_eq_iff {other : Path}
    (inside : ∃ name, other.components = routes.components ++ [.normal name]) :
    context.relative other = context.relative path ↔ other.components = path.components := by
  obtain ⟨name', lies'⟩ := inside
  constructor
  · intro same
    rw [lies', lies, Path.relativeTo_siblings lies' lies same]
  · intro same
    exact Path.relativeTo_congr same name' (by simp [lies']) context.root

/-- Of the reached files only the one under a path is reported under what is shown of the path. -/
theorem filter_unwrapped :
    (unwrappedRoutes context shell routes exempt wrapper).filter
        (fun violation => violation.subject = context.relative path) =
      (context.files.filter fun file => file.path.components = path.components).filterMap
        (unwrapped? shell routes exempt wrapper) := by
  refine filter_filterMap_of (unwrapped? shell routes exempt wrapper) _ _ _ fun file member found kept => ?_
  obtain ⟨route, -, rfl⟩ := unwrapped_eq_some kept
  obtain ⟨inside, -⟩ := (isRoute_iff routes file.path).mp route
  rw [unwrapped_subject, relativePath_of_value built rooted member]
  exact decide_eq_decide.mpr (relative_eq_iff lies inside)

omit built rooted in
theorem filter_orphaned (spelled : context.tree.Spelled) (normal : routes.normalize = routes) :
    (orphanRoutes context routes exempt).filter
        (fun violation => violation.subject = context.relative path) =
      ((routeFiles context.tree routes).filter fun other => other.components = path.components).filterMap
        (orphaned? context exempt) := by
  rw [orphanRoutes_eq]
  refine filter_filterMap_of _ _ _ _ fun other member found kept => ?_
  obtain ⟨-, -, rfl⟩ := orphaned_eq_some.mp kept
  obtain ⟨place, name', bytes, -, held, rfl, -⟩ := (mem_routeFiles spelled normal other).mp member
  rw [orphaned_subject]
  exact decide_eq_decide.mpr (relative_eq_iff lies ⟨name', (child_path spelled normal held).1⟩)

variable {place : List Name} {bytes : List UInt8} (located : context.tree.locate routes = .ok place)
  (held : context.tree.entry? (place ++ [name]) = some (.file bytes))
  (script : (Language.ofPath path).isScript = true)

include located held script

theorem filter_unwrapped_of_contains (reached : context.reachable.contains path = true) :
    (unwrappedRoutes context shell routes exempt wrapper).filter
        (fun violation => violation.subject = context.relative path) =
      if exempt.accepts (context.relative path) then []
      else match Text.decode? bytes with
        | some text =>
            if wrapper.isMatch (String.ofList text) then [] else [unwrapped shell (context.relative path)]
        | none => [] := by
  obtain ⟨file, member, same⟩ := (contains_iff_value built path).mp reached
  have inside : file.path.components = routes.components ++ [.normal name] := same.trans lies
  have shown : file.relativePath = context.relative path :=
    (relativePath_of_value built rooted member).trans ((relative_eq_iff lies ⟨name, inside⟩).mpr same)
  have route : isRoute routes file.path = true := by
    refine (isRoute_iff routes file.path).mpr ⟨⟨name, inside⟩, ?_⟩
    rwa [ImportEdge.language_congr same]
  have text : file.text? = (Text.decode? bytes).map String.ofList := by
    obtain ⟨-, read, opened⟩ := build_value built member
    have told := text_of_child resolver located held inside opened
    rwa [← read] at told
  -- The set holds one file under each path, so what is found here is found of this file.
  have single : (context.files.filter fun other => other.path.components = path.components) = [file] := by
    rw [← same]
    exact filter_key (fun file : SourceFile => file.path.components) member
      (values_apart resolver context.tree sourceRoot entries context.reachable built)
  rw [filter_unwrapped built rooted lies, single, List.filterMap_cons, List.filterMap_nil]
  unfold unwrapped?
  rw [route, shown, text]
  cases exempt.accepts (context.relative path) with
  | true => rfl
  | false =>
      cases Text.decode? bytes with
      | none => rfl
      | some characters =>
          dsimp only [Option.map_some]
          cases wrapper.isMatch (String.ofList characters) <;> rfl

omit located held script in
theorem filter_unwrapped_of_not (reached : context.reachable.contains path = false) :
    (unwrappedRoutes context shell routes exempt wrapper).filter
        (fun violation => violation.subject = context.relative path) = [] := by
  have none : (context.files.filter fun file => file.path.components = path.components) = [] := by
    refine List.filter_eq_nil_iff.mpr fun file member same => ?_
    have known := (contains_iff_value built path).mpr ⟨file, member, by simpa using same⟩
    rw [reached] at known
    contradiction
  rw [filter_unwrapped built rooted lies, none]
  rfl

omit built rooted in
theorem filter_orphaned_of_child (spelled : context.tree.Spelled) (normal : routes.normalize = routes)
    (same : path = routes.join (String.ofList name)) :
    (orphanRoutes context routes exempt).filter
        (fun violation => violation.subject = context.relative path) =
      (orphaned? context exempt path).toList := by
  have member := (mem_routeFiles spelled normal path).mpr ⟨place, name, bytes, located, held, same, script⟩
  rw [filter_orphaned lies spelled normal,
    filter_key Path.components member (routeFiles_apart spelled normal), List.filterMap_cons,
    List.filterMap_nil]
  cases orphaned? context exempt path <;> rfl

end Reached

section Gates

open FileTree ReachableSet

variable (context : CheckContext) {settings : ShellSection} {exempt : PathGlobs} {wrapper : Regex}

theorem shell_eq [Engine] (configured : context.config.shell = some settings)
    (globs : PathGlobs.compile settings.exempt = .ok exempt)
    (words : wrapperRegex settings.wrappers = .ok wrapper)
    (directory : context.tree.isDirectory (context.root.configured settings.routesDirectory) = true) :
    shell context =
      unwrappedRoutes context settings (context.root.configured settings.routesDirectory) exempt wrapper ++
        orphanRoutes context (context.root.configured settings.routesDirectory) exempt := by
  unfold shell
  rw [configured]
  dsimp only
  rw [globs, words]
  dsimp only
  rw [directory]
  rfl

variable {resolver : Resolver} {sourceRoot : String} {entries : List String}
  (built : build resolver context.tree sourceRoot entries = .ok context.reachable)

include built

theorem contains_iff_normalize (extensions : Attachable resolver.extensions) {path : Path}
    (normal : path.normalize = path) : context.reachable.contains path = true ↔
      ∃ file ∈ context.files, file.path.normalize = path.normalize := by
  rw [contains_iff_value built]
  constructor
  · rintro ⟨file, member, same⟩
    exact ⟨file, member, Path.normalize_congr (Path.solid_congr same)⟩
  · rintro ⟨file, member, same⟩
    obtain ⟨listed, -⟩ := build_value built member
    rw [build_normal extensions built _ listed, normal] at same
    exact ⟨file, member, congrArg Path.components same⟩

variable (rooted : context.root = resolver.root) (spelled : context.tree.Spelled) {routes : Path}
  (normal : routes.normalize = routes)

include rooted spelled normal

/-- Every finding is about a script file right in the directory of the routes that no glob exempts. -/
theorem route_of_finding (violation : Violation)
    (member : violation ∈ unwrappedRoutes context settings routes exempt wrapper ++
      orphanRoutes context routes exempt) :
    ∃ path name, path.components = routes.components ++ [.normal name] ∧
      (Language.ofPath path).isScript = true ∧ violation.subject = context.relative path ∧
      exempt.accepts violation.subject = false := by
  rcases List.mem_append.mp member with bare | orphan
  · obtain ⟨file, listed, found⟩ := List.mem_filterMap.mp bare
    obtain ⟨route, counted, rfl⟩ := unwrapped_eq_some found
    obtain ⟨⟨name, lies⟩, script⟩ := (isRoute_iff routes file.path).mp route
    rw [unwrapped_subject]
    exact ⟨file.path, name, lies, script, relativePath_of_value built rooted listed, counted⟩
  · rw [orphanRoutes_eq] at orphan
    obtain ⟨path, listed, found⟩ := List.mem_filterMap.mp orphan
    obtain ⟨-, counted, rfl⟩ := orphaned_eq_some.mp found
    obtain ⟨place, name, bytes, -, held, rfl, script⟩ := (mem_routeFiles spelled normal path).mp listed
    rw [orphaned_subject]
    exact ⟨_, name, (child_path spelled normal held).1, script, rfl, counted⟩

theorem filter_findings {place : List Name} {name : Name} {bytes : List UInt8}
    (located : context.tree.locate routes = .ok place)
    (held : context.tree.entry? (place ++ [name]) = some (.file bytes))
    (script : (Language.ofPath (routes.join (String.ofList name))).isScript = true) :
    (unwrappedRoutes context settings routes exempt wrapper ++ orphanRoutes context routes exempt).filter
        (fun violation => violation.subject = context.relative (routes.join (String.ofList name))) =
      routeFindings context settings exempt wrapper (routes.join (String.ofList name)) bytes := by
  obtain ⟨lies, -⟩ := child_path spelled normal held
  generalize same : routes.join (String.ofList name) = path at *
  rw [List.filter_append, filter_orphaned_of_child lies located held script spelled normal same.symm]
  unfold routeFindings orphaned?
  dsimp only
  cases reached : context.reachable.contains path with
  | true =>
      rw [filter_unwrapped_of_contains built rooted lies located held script reached]
      simp
  | false =>
      rw [filter_unwrapped_of_not built rooted lies reached]
      cases exempt.accepts (context.relative path) <;> rfl

omit built rooted spelled normal in
/-- The check of routes partitions the script files of their directory. A file that a glob exempts is not
reported; one that is reached, however it was imported, is reported once if it is a text that names no
wrapper, and is no orphan; any other one is reported once as an orphan. Nothing else is reported. -/
theorem shell_exact [Engine] {tree : FileTree} {root : Path} {config : GateConfig} {gate : Gate}
    (prepared : Gate.prepare tree root config = .ok gate) (spelled : tree.Spelled)
    (configured : config.shell = some settings)
    (globs : PathGlobs.compile settings.exempt = .ok exempt)
    (words : wrapperRegex settings.wrappers = .ok wrapper)
    (whole : ∀ extension ∈ config.extensions, '/' ∉ extension.toList) (strict : Bool)
    (directory : tree.isDirectory (gate.reachable.root.configured settings.routesDirectory) = true) :
    let context := gate.context strict
    let routes := context.root.configured settings.routesDirectory
    (∀ place name bytes, tree.locate routes = .ok place →
      tree.entry? (place ++ [name]) = some (.file bytes) →
        let path := routes.join (String.ofList name)
        (Language.ofPath path).isScript = true →
          (shell context).filter (fun violation => violation.subject = context.relative path) =
              routeFindings context settings exempt wrapper path bytes ∧
            (context.reachable.contains path = true ↔
              ∃ file ∈ context.files, file.path.normalize = path.normalize)) ∧
      ∀ violation ∈ shell context, ∃ path name, path.components = routes.components ++ [.normal name] ∧
        (Language.ofPath path).isScript = true ∧ violation.subject = context.relative path ∧
        exempt.accepts violation.subject = false := by
  intro context routes
  obtain ⟨resolver, made, reachable, built, rfl⟩ := Gate.prepare_ok tree root config gate prepared
  obtain ⟨rooted, -, -⟩ := build_shape built
  obtain ⟨same, dotted⟩ := Resolver.extensions_of_make made
  have extensions : Attachable resolver.extensions := fun extension listed =>
    ⟨dotted extension listed, whole extension (by rwa [same] at listed)⟩
  have normal : routes.normalize = routes := Path.normalize_normalize _
  rw [shell_eq context configured globs words directory]
  refine ⟨?_, route_of_finding context built rooted spelled normal⟩
  intro place name bytes located held path script
  exact ⟨filter_findings context built rooted spelled normal located held script,
    contains_iff_normalize context built extensions (child_path spelled normal held).2⟩

end Gates

section Pages

def pagesTree : FileTree where
  entries := .ofList [(["src".toList], .directory), (["src".toList, "pages".toList], .directory),
    (["src".toList, "pages".toList, "About.tsx".toList], .file []),
    (["src".toList, "pages".toList, "Home.tsx".toList], .file [])]

def pagesSection (wrappers : List String) : ShellSection :=
  { routesDirectory := "src/pages", wrappers }

def pagesConfig (wrappers : List String) : GateConfig :=
  { schemaVersion := 1, sourceRoot := "src", entries := ["src/pages/About.tsx"], extensions := [".tsx"],
    shell := some (pagesSection wrappers) }

theorem pagesTree_spelled : pagesTree.Spelled := by
  have named : ∀ entry ∈ pagesTree.entries.entries, ∀ name ∈ entry.1, PlainName name := by
    decide
  exact fun entry member name inside => (named entry member name inside).plain

theorem prepare_shell (tree : FileTree) (root : Path) (config : GateConfig)
    (settings : Option ShellSection) : Gate.prepare tree root { config with shell := settings } =
      (Gate.prepare tree root config).map fun gate =>
        { gate with config := { config with shell := settings } } := by
  unfold Gate.prepare
  dsimp only
  split
  · rfl
  · split <;> rfl

theorem pages_prepared (wrappers : List String) : ∃ gate,
    Gate.prepare pagesTree ⟨"/"⟩ (pagesConfig wrappers) = .ok gate ∧
      gate.config = pagesConfig wrappers ∧ gate.reachable.root = ⟨"/"⟩ ∧
      gate.reachable.contains ⟨"/src/pages/About.tsx"⟩ = true ∧
      gate.reachable.contains ⟨"/src/pages/Home.tsx"⟩ = false := by
  have computed : (Gate.prepare pagesTree ⟨"/"⟩ (pagesConfig [])).toOption.map (fun gate =>
      (gate.reachable.root, gate.reachable.contains ⟨"/src/pages/About.tsx"⟩,
        gate.reachable.contains ⟨"/src/pages/Home.tsx"⟩)) = some (⟨"/"⟩, true, false) := by
    decide +kernel
  obtain ⟨gate, prepared, told⟩ := Option.map_eq_some_iff.mp computed
  have same := prepare_shell pagesTree ⟨"/"⟩ (pagesConfig []) (some (pagesSection wrappers))
  -- The gate is computed once, without wrappers: what it reaches does not depend on them.
  rw [ReachableSet.ok_of_toOption prepared] at same
  obtain ⟨top, rest⟩ := Prod.mk.inj told
  obtain ⟨reached, missed⟩ := Prod.mk.inj rest
  exact ⟨_, same, rfl, top, reached, missed⟩

theorem pages_shown : (Path.mk "/").configured "src/pages" = ⟨"/src/pages"⟩ ∧
    (Path.mk "/src/pages/About.tsx").relativeTo ⟨"/"⟩ = "src/pages/About.tsx" ∧
    (Path.mk "/src/pages/Home.tsx").relativeTo ⟨"/"⟩ = "src/pages/Home.tsx" := by
  refine ⟨?_, ?_, ?_⟩ <;> decide

theorem pages_listed : pagesTree.locate ⟨"/src/pages"⟩ = .ok ["src".toList, "pages".toList] ∧
    pagesTree.isDirectory ⟨"/src/pages"⟩ = true ∧
    pagesTree.entry? ["src".toList, "pages".toList, "About.tsx".toList] = some (.file []) ∧
    pagesTree.entry? ["src".toList, "pages".toList, "Home.tsx".toList] = some (.file []) := by
  refine ⟨by rfl, ?_, ?_, ?_⟩ <;> decide

section Examples

attribute [local instance] Engine.rough

theorem shell_exact_pages : ∃ gate, Gate.prepare pagesTree ⟨"/"⟩ (pagesConfig ["Shell"]) = .ok gate ∧
    let found := shell (gate.context false)
    found.filter (fun violation => violation.subject = "src/pages/About.tsx") =
        [unwrapped (pagesSection ["Shell"]) "src/pages/About.tsx"] ∧
      found.filter (fun violation => violation.subject = "src/pages/Home.tsx") =
        [orphaned "src/pages/Home.tsx"] := by
  obtain ⟨gate, prepared, -, top, reached, missed⟩ := pages_prepared ["Shell"]
  obtain ⟨located, directory, about, home⟩ := pages_listed
  obtain ⟨routed, aboutShown, homeShown⟩ := pages_shown
  rw [← top] at routed aboutShown homeShown
  have computed : (wrapperRegex ["Shell"]).toOption.map (fun wrapper => wrapper.isMatch "") =
      some false := by decide
  obtain ⟨wrapper, words, apart⟩ := Option.map_eq_some_iff.mp computed
  have configured : (pagesConfig ["Shell"]).shell = some (pagesSection ["Shell"]) := rfl
  have globs : PathGlobs.compile (pagesSection ["Shell"]).exempt = .ok ⟨[]⟩ := rfl
  have enters : pagesTree.isDirectory (gate.reachable.root.configured "src/pages") = true := by
    rw [routed]
    exact directory
  obtain ⟨each, -⟩ := shell_exact prepared pagesTree_spelled configured globs
    (ReachableSet.ok_of_toOption words) (by decide) false enters
  rw [show (gate.context false).root.configured (pagesSection ["Shell"]).routesDirectory =
    ⟨"/src/pages"⟩ from routed] at each
  obtain ⟨aboutFound, -⟩ := each _ _ _ located about (by decide)
  obtain ⟨homeFound, -⟩ := each _ _ _ located home (by decide)
  have aboutPath : (Path.mk "/src/pages").join (String.ofList "About.tsx".toList) =
      ⟨"/src/pages/About.tsx"⟩ := by decide
  have homePath : (Path.mk "/src/pages").join (String.ofList "Home.tsx".toList) =
      ⟨"/src/pages/Home.tsx"⟩ := by decide
  have counted : ∀ path, PathGlobs.accepts ⟨[]⟩ path = false := fun path => rfl
  have decoded : Text.decode? [] = some [] := rfl
  have empty : String.ofList [] = "" := rfl
  rw [aboutPath, routeFindings, show (gate.context false).relative _ = _ from aboutShown, counted,
    decoded, show (gate.context false).reachable.contains _ = _ from reached] at aboutFound
  rw [homePath, routeFindings, show (gate.context false).relative _ = _ from homeShown, counted,
    show (gate.context false).reachable.contains _ = _ from missed] at homeFound
  simp only [Bool.false_eq_true, if_false, if_true, empty, apart] at aboutFound homeFound
  exact ⟨gate, prepared, aboutFound, homeFound⟩

end Examples

end Pages

section Room

open Regex

attribute [local instance] Engine.rough

theorem room_single (character : Char) : 32 ≤ (Expr.set (CharSet.single character)).room := by
  show 32 ≤ Expr.setRoom (CharSet.single character)
  unfold Expr.setRoom CharSet.single
  dsimp only
  rw [if_pos (beq_self_eq_true _)]
  split
  · exact Nat.le_refl _
  · split
    · decide
    · split <;> decide

theorem room_ofText (text : List Char) : 32 * text.length ≤ (Expr.ofText text).room := by
  unfold Expr.ofText
  induction text with
  | nil => exact Nat.le_refl _
  | cons character rest ih =>
      have first := room_single character
      cases rest with
      | nil => exact first
      | cons next more =>
          rw [List.length_cons, Nat.mul_succ, Nat.add_comm]
          exact Nat.add_le_add first ih

theorem room_ofOptions {options : List Expr} {option : Expr} (listed : option ∈ options) :
    option.room ≤ (Expr.ofOptions options).room := by
  induction options with
  | nil => contradiction
  | cons first rest ih =>
      cases rest with
      | nil =>
          rw [List.mem_singleton.mp listed]
          exact Nat.le_refl _
      | cons next more =>
          have whole : (Expr.ofOptions (first :: next :: more)).room =
              first.room + (Expr.ofOptions (next :: more)).room + 36 := rfl
          rw [whole]
          rcases List.mem_cons.mp listed with rfl | later
          · omega
          · have bound := ih later
            omega

theorem wrapperRegex_tooLarge {wrappers : List String} {name : String} (listed : name ∈ wrappers)
    (long : sizeLimit < 32 * (Text.trim name).toList.length) :
    wrapperRegex wrappers = .error .tooLarge := by
  have some : ¬ (wrappers.map Text.trim).isEmpty = true := by
    intro none
    rw [List.isEmpty_iff, List.map_eq_nil_iff] at none
    rw [none] at listed
    contradiction
  have member : Expr.ofText (Text.trim name).toList ∈
      (wrappers.map Text.trim).map fun text => Expr.ofText text.toList :=
    List.mem_map.mpr ⟨_, List.mem_map_of_mem listed, rfl⟩
  have least := Nat.le_trans (room_ofText _) (room_ofOptions member)
  unfold wrapperRegex wholeWord ofExpr
  dsimp only
  rw [if_neg some]
  refine if_neg fun fits => Nat.not_lt_of_le (of_decide_eq_true fits) (Nat.lt_of_lt_of_le long ?_)
  refine Nat.le_trans least ?_
  show _ ≤ 32 + (_ + 32)
  omega

theorem replicate_tooLarge (count : Nat) (long : sizeLimit < 32 * count) :
    wrapperRegex [String.ofList (List.replicate count 'a')] = .error .tooLarge := by
  -- The name is too long to be computed with, so it is told by its letters alone.
  have bare : Text.Bare Text.isBlank (List.replicate count 'a') := by
    constructor
    · intro first found
      rw [List.eq_of_mem_replicate (List.mem_of_mem_head? found)]
      decide
    · intro last found
      rw [List.eq_of_mem_replicate (List.mem_of_mem_getLast? found)]
      decide
  refine wrapperRegex_tooLarge List.mem_cons_self ?_
  rwa [Text.trim, String.toList_ofList, String.toList_ofList, Text.dropEnds_of_bare _ _ bare,
    List.length_replicate]

/-- Where the wrappers cannot be looked for, the configuration is reported and no page is judged. -/
theorem shell_of_tooLarge {wrappers : List String} (large : wrapperRegex wrappers = .error .tooLarge) :
    ∃ gate, Gate.prepare pagesTree ⟨"/"⟩ (pagesConfig wrappers) = .ok gate ∧
      pagesTree.isDirectory (gate.reachable.root.configured "src/pages") = true ∧
      (gate.context false).relative ⟨"/src/pages/Home.tsx"⟩ = "src/pages/Home.tsx" ∧
      gate.reachable.contains ⟨"/src/pages/Home.tsx"⟩ = false ∧
      (shell (gate.context false)).map Violation.subject = ["shell.wrappers"] := by
  obtain ⟨gate, prepared, configured, top, -, missed⟩ := pages_prepared wrappers
  obtain ⟨-, directory, -, -⟩ := pages_listed
  obtain ⟨routed, -, homeShown⟩ := pages_shown
  rw [← top] at routed homeShown
  have globs : PathGlobs.compile (pagesSection wrappers).exempt = .ok ⟨[]⟩ := rfl
  have settings : (gate.context false).config.shell = some (pagesSection wrappers) :=
    congrArg GateConfig.shell configured
  refine ⟨gate, prepared, by rwa [routed], homeShown, missed, ?_⟩
  unfold shell
  rw [settings]
  dsimp only
  rw [globs, show wrapperRegex (pagesSection wrappers).wrappers = _ from large]
  rfl

def longName : String := String.ofList (List.replicate 500000 'a')

/-- An orphan is not reported where a wrapper has too long a name. -/
theorem shell_unjudged : ∃ gate, Gate.prepare pagesTree ⟨"/"⟩ (pagesConfig [longName]) = .ok gate ∧
    pagesTree.isDirectory (gate.reachable.root.configured "src/pages") = true ∧
    (gate.context false).relative ⟨"/src/pages/Home.tsx"⟩ = "src/pages/Home.tsx" ∧
    gate.reachable.contains ⟨"/src/pages/Home.tsx"⟩ = false ∧
    (shell (gate.context false)).map Violation.subject = ["shell.wrappers"] :=
  shell_of_tooLarge (replicate_tooLarge 500000 (by decide))

end Room

end Checks

end UiContract
