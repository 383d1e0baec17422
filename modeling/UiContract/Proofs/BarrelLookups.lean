import UiContract.Proofs.Compliance
import UiContract.Proofs.ModuleNames
import UiContract.Proofs.TypeImports

/-!
What `lookups` asks the registry about for imports of index modules. A module is an index by its name up to
the last dot, but goes by its name up to the first one; and an import without bindings of an index module
counts as a dynamic one unless it is written for its side effects.
-/
namespace UiContract

namespace ImportDeclaration

open Script

theorem own_bare {tree : Tree} {declaration : ImportDeclaration} (made : own? tree = some declaration)
    (bare : declaration.kind = .dynamic ∨ declaration.kind = .sideEffect) :
    declaration.bindings = [] := by
  unfold own? at made
  split at made
  · rcases ofImport_kind tree declaration made with static | ⟨-, none⟩
    · rcases bare with other | other <;> exact absurd (static.symm.trans other) (by decide)
    · exact none
  · split at made
    · have reExport := ofExport_kind tree declaration made
      rcases bare with other | other <;> exact absurd (reExport.symm.trans other) (by decide)
    · split at made
      · rename_i call
        obtain ⟨specifier, -, rfl⟩ := (ofCall_iff tree declaration (beq_iff_eq.mp call)).mp made
        rfl
      · contradiction

end ImportDeclaration

namespace ImportEdge

variable {resolver : Resolver} {tree : FileTree} {importer : Path} {text : String}
  {edges : List ImportEdge} {edge : ImportEdge}

section Extracted

variable (extracted : extract resolver tree importer text = .ok edges) (member : edge ∈ edges)

include extracted member

theorem extract_bare (bare : edge.kind = .dynamic ∨ edge.kind = .sideEffect) :
    edge.bindings = [] := by
  obtain ⟨declaration, listed, rfl⟩ := mem_extract resolver tree extracted member
  obtain ⟨part, -, made⟩ := (ImportDeclaration.mem_inOrder _ declaration).mp listed
  have none := ImportDeclaration.own_bare made bare
  unfold ofDeclaration
  rw [none]
  rfl

theorem extract_default {target : Path} (leads : edge.resolved = some target) {name : List Char}
    (called : target.moduleName? = some name) {localName moduleName : String}
    (bound : .defaultExport localName moduleName ∈ edge.bindings) :
    moduleName = String.ofList name := by
  obtain ⟨declaration, -, rfl⟩ := mem_extract resolver tree extracted member
  have found : ImportEdge.moduleName? (resolver.resolve tree importer declaration.specifier).file?
      declaration.specifier = some (String.ofList name) := by
    unfold ImportEdge.moduleName?
    rw [show (resolver.resolve tree importer declaration.specifier).file? = some target from leads,
      Option.bind_some, called]
  unfold ofDeclaration at bound
  dsimp only at bound
  rw [found] at bound
  obtain ⟨written, -, same⟩ := List.mem_map.mp bound
  cases written with
  | defaultExport ownName => exact (ImportBinding.defaultExport.inj same).2.symm
  | named imported ownName => contradiction
  | wholeModule ownName => contradiction

end Extracted

end ImportEdge

namespace Checks

/-- An import asks about a component under this name that it does not write: the module that it leads
to goes by the name. -/
inductive Derives (edge : ImportEdge) (target : Path) (rootBarrel : Bool) : String → Prop where
  | defaultExport (localName moduleName : String) :
      .defaultExport localName moduleName ∈ edge.bindings → rootBarrel = false →
      Derives edge target rootBarrel moduleName
  | wholeModule (localName : String) (name : List Char) : .wholeModule localName ∈ edge.bindings →
      target.isBarrel = false → target.moduleName? = some name →
      Derives edge target rootBarrel (String.ofList name)
  | bare (name : List Char) : edge.bindings = [] →
      (target.isBarrel = false ∨ edge.kind ≠ .sideEffect) → rootBarrel = false →
      target.moduleName? = some name → Derives edge target rootBarrel (String.ofList name)

section Derived

variable {edge : ImportEdge} {target : Path} {rootBarrel : Bool} {name : String}

/-- An import asks about the names that it writes and about those that it does not. -/
theorem component_mem_lookups_iff : .component name ∈ lookups edge target rootBarrel ↔
    (∃ localName, .named name localName ∈ edge.bindings) ∨ Derives edge target rootBarrel name := by
  rw [component_mem_lookups]
  constructor
  · intro asks
    cases asks with
    | named imported localName held => exact .inl ⟨localName, held⟩
    | defaultExport localName moduleName held inner =>
        exact .inr (.defaultExport localName name held inner)
    | wholeModule localName module held single called =>
        exact .inr (.wholeModule localName module held single called)
    | bare module none counted inner called => exact .inr (.bare module none counted inner called)
  · rintro (⟨localName, held⟩ | derives)
    · exact .named name localName held
    · cases derives with
      | defaultExport localName moduleName held inner =>
          exact .defaultExport localName name held inner
      | wholeModule localName module held single called =>
          exact .wholeModule localName module held single called
      | bare module none counted inner called => exact .bare module none counted inner called

theorem moduleComponent_eq_nil : moduleComponent target = [] ↔ target.moduleName? = none := by
  cases called : target.moduleName? <;> simp [moduleComponent, called]

/-- An import without bindings that is not one for side effects asks for what such a one asks for just
where that is the module by its name, or nothing. -/
theorem lookups_bare_eq_iff {silent : ImportEdge} (unbound : edge.bindings = [])
    (loud : edge.kind ≠ .sideEffect) (unbound' : silent.bindings = [])
    (sideEffect : silent.kind = .sideEffect) :
    lookups edge target rootBarrel = lookups silent target rootBarrel ↔
      target.isBarrel = false ∨ rootBarrel = false ∧ target.moduleName? = none := by
  have asked : lookups edge target rootBarrel =
      if rootBarrel then [.wholeBarrel "dynamic"] else moduleComponent target := by
    rw [lookups, if_pos (List.isEmpty_iff.mpr unbound), if_neg (by simp [loud])]
  have quiet : lookups silent target rootBarrel = if target.isBarrel then [] else
      if rootBarrel then [.wholeBarrel "dynamic"] else moduleComponent target := by
    rw [lookups, if_pos (List.isEmpty_iff.mpr unbound'), sideEffect]
    cases target.isBarrel <;> rfl
  rw [asked, quiet]
  cases target.isBarrel with
  | false => simp
  | true => cases rootBarrel <;> simp [moduleComponent_eq_nil]

theorem Derives.not_rootBarrel {scope : Scope}
    (derives : Derives edge target (scope.isRootBarrel target) name) :
    scope.isRootBarrel target = false := by
  cases derives with
  | defaultExport localName moduleName held inner => exact inner
  | wholeModule localName module held single called =>
      unfold Scope.isRootBarrel
      rw [single, Bool.false_and]
  | bare module none counted inner called => exact inner

end Derived

variable {resolver : Resolver} {tree : FileTree} {importer : Path} {text : String}
  {edges : List ImportEdge} {edge : ImportEdge}

/-- A name that is not written is the one that the module goes by, if it goes by one. -/
theorem Derives.moduleName {target : Path} {rootBarrel : Bool} {name : String}
    (extracted : ImportEdge.extract resolver tree importer text = .ok edges) (member : edge ∈ edges)
    (leads : edge.resolved = some target) (derives : Derives edge target rootBarrel name)
    (goesBy : target.moduleName? ≠ none) : target.moduleName? = some name.toList := by
  obtain ⟨module, called⟩ := Option.ne_none_iff_exists'.mp goesBy
  cases derives with
  | defaultExport localName moduleName held inner =>
      rw [ImportEdge.extract_default extracted member leads called held, String.toList_ofList, called]
  | wholeModule localName written held single known => rw [String.toList_ofList, known]
  | bare written none counted inner known => rw [String.toList_ofList, known]

/-- What an import asks about without writing the name. The name is empty just where that of the file
begins with a dot. Of a module that lies directly in the directory of the components it is the name of
the directory just where the file bears that name or is called an index with more than an extension
behind it; about an index module proper nothing is asked by a name of its own. -/
theorem derived_names {scope : Scope} {root target : Path}
    (extracted : ImportEdge.extract resolver tree importer text = .ok edges) (member : edge ∈ edges)
    (covers : scope.Covers root edge target) :
    ∃ file, target.fileName? = some file ∧
      (target.isBarrel = true ↔
        ∃ extension, '.' ∉ extension ∧ file = Path.indexWord ++ '.' :: extension) ∧
      (∀ name, .component name ∈ lookups edge target (scope.isRootBarrel target) ↔
        (∃ localName, .named name localName ∈ edge.bindings) ∨
          Derives edge target (scope.isRootBarrel target) name) ∧
      ∀ name, Derives edge target (scope.isRootBarrel target) name → target.moduleName? ≠ none →
        (name = "" ↔ file.head? = some '.') ∧
        ∀ directory, target.parent? = some directory → directory.same scope.componentRoot = true →
          target.isBarrel = false ∧ ∀ called, scope.componentRoot.fileName? = some called →
            (name.toList = called ↔ Text.before (· == '.') file = called ∨
              Text.before (· == '.') file = Path.indexWord) := by
  obtain ⟨front, after, named, filled, bare⟩ := Path.exists_name covers.script
  refine ⟨_, named, Path.isBarrel_iff named filled bare, fun name => component_mem_lookups_iff,
    fun name derives goesBy => ?_⟩
  generalize front ++ '.' :: after = file at named
  have module := derives.moduleName extracted member covers.leads goesBy
  rw [Path.moduleName_eq named] at module
  constructor
  · rw [← Path.before_eq_nil named, ← String.toList_eq_nil_iff]
    split at module
    -- The name of a directory never is empty.
    · rename_i index
      obtain ⟨directory, -, called⟩ := Option.bind_eq_some_iff.mp module
      rw [index]
      exact iff_of_false (Path.fileName_ne_nil called) (List.cons_ne_nil _ _)
    · rw [Option.some.inj module]
  · intro directory above direct
    refine ⟨?_, fun called root => ?_⟩
    · have notRoot := derives.not_rootBarrel
      unfold Scope.isRootBarrel at notRoot
      rw [above, Option.any_some, direct, Bool.and_true] at notRoot
      exact notRoot
    · have same : directory.fileName? = some called := by
        rw [← root]
        unfold Path.fileName?
        rw [(Path.same_iff directory scope.componentRoot).mp direct]
      split at module
      · rename_i index
        rw [above, Option.bind_some, same] at module
        exact iff_of_true (Option.some.inj module).symm (.inr index)
      · rename_i other
        rw [← Option.some.inj module]
        exact (or_iff_left other).symm

/-- An index module among the components, one with a mark, a hidden module and a component. -/
def shelfTree : FileTree :=
  ["index.ts", "index.web.ts", ".hidden.ts", "Button.ts"].foldl
    (fun tree name => tree.add [['s', 'r', 'c'], ['u', 'i'], name.toList] (.file [])) {}

def shelfScope : Scope := { componentRoot := ⟨"/src/ui"⟩, ignore := ⟨[]⟩ }

theorem derived_names_button :
    ∃ edge, ImportEdge.extract ReachableSet.plainResolver shelfTree ⟨"/src/a.ts"⟩
        "import Own from './ui/Button'" = .ok [edge] ∧
      shelfScope.Covers ⟨"/"⟩ edge ⟨"/src/ui/Button.ts"⟩ ∧
      .component "Button" ∈ lookups edge ⟨"/src/ui/Button.ts"⟩
        (shelfScope.isRootBarrel ⟨"/src/ui/Button.ts"⟩) ∧
      ∃ file, Path.fileName? ⟨"/src/ui/Button.ts"⟩ = some file ∧
        ("Button" = "" ↔ file.head? = some '.') := by
  have extracted : ImportEdge.extract ReachableSet.plainResolver shelfTree ⟨"/src/a.ts"⟩
      "import Own from './ui/Button'" = .ok [⟨⟨"/src/a.ts"⟩, "./ui/Button",
        some ⟨"/src/ui/Button.ts"⟩, [.defaultExport "Own" "Button"], false, .static, 1⟩] := by
    apply ReachableSet.ok_of_toOption
    decide +kernel
  have covers : shelfScope.Covers ⟨"/"⟩ ⟨⟨"/src/a.ts"⟩, "./ui/Button", some ⟨"/src/ui/Button.ts"⟩,
      [.defaultExport "Own" "Button"], false, .static, 1⟩ ⟨"/src/ui/Button.ts"⟩ :=
    ⟨rfl, by decide, rfl, by decide, by decide, by decide⟩
  obtain ⟨file, named, -, asked, told⟩ := derived_names extracted List.mem_cons_self covers
  have derives : Derives ⟨⟨"/src/a.ts"⟩, "./ui/Button", some ⟨"/src/ui/Button.ts"⟩,
      [.defaultExport "Own" "Button"], false, .static, 1⟩ ⟨"/src/ui/Button.ts"⟩
      (shelfScope.isRootBarrel ⟨"/src/ui/Button.ts"⟩) "Button" :=
    .defaultExport "Own" "Button" List.mem_cons_self (by decide)
  exact ⟨_, extracted, covers, (asked "Button").mpr (.inr derives), file, named,
    (told "Button" derives (by decide)).1⟩

/-- An index module with a mark in its name is asked about by the name of the directory of the components,
and a hidden module by an empty one. -/
theorem lookups_marked_index :
    (∃ marked, ImportEdge.extract ReachableSet.plainResolver shelfTree ⟨"/src/a.ts"⟩
        "import './ui/index.web'" = .ok [marked] ∧
      shelfScope.Covers ⟨"/"⟩ marked ⟨"/src/ui/index.web.ts"⟩ ∧
      (Path.mk "/src/ui/index.web.ts").parent? = some shelfScope.componentRoot ∧
      shelfScope.componentRoot.fileName? = some ['u', 'i'] ∧
      lookups marked ⟨"/src/ui/index.web.ts"⟩
        (shelfScope.isRootBarrel ⟨"/src/ui/index.web.ts"⟩) = [.component "ui"]) ∧
    ∃ hidden, ImportEdge.extract ReachableSet.plainResolver shelfTree ⟨"/src/a.ts"⟩
        "import './ui/.hidden'" = .ok [hidden] ∧
      shelfScope.Covers ⟨"/"⟩ hidden ⟨"/src/ui/.hidden.ts"⟩ ∧
      lookups hidden ⟨"/src/ui/.hidden.ts"⟩
        (shelfScope.isRootBarrel ⟨"/src/ui/.hidden.ts"⟩) = [.component ""] := by
  constructor
  · refine ⟨⟨⟨"/src/a.ts"⟩, "./ui/index.web", some ⟨"/src/ui/index.web.ts"⟩, [], false, .sideEffect, 1⟩,
      ?_, ⟨rfl, by decide, rfl, by decide, by decide, by decide⟩,
      by decide, by decide, by decide⟩
    apply ReachableSet.ok_of_toOption
    decide +kernel
  · refine ⟨⟨⟨"/src/a.ts"⟩, "./ui/.hidden", some ⟨"/src/ui/.hidden.ts"⟩, [], false, .sideEffect, 1⟩,
      ?_, ⟨rfl, by decide, rfl, by decide, by decide, by decide⟩,
      by decide⟩
    apply ReachableSet.ok_of_toOption
    decide +kernel

/-- In what ways an import asks about a whole index module. Of the index module of the components this is
by a default import, or as for a dynamic import where nothing is bound and the import is not written for
its side effects alone; of any index module it is by an import of the module as a whole. So a static
one that binds nothing asks for what one for side effects asks for just where the module is no index, or
is one that goes by no name. -/
theorem wholeBarrel_labels (extracted : ImportEdge.extract resolver tree importer text = .ok edges)
    (member : edge ∈ edges) (scope : Scope) (target : Path) :
    let asked := lookups edge target (scope.isRootBarrel target)
    (∀ how, .wholeBarrel how ∈ asked → how ∈ barrelWays) ∧
      (.wholeBarrel "dynamic" ∈ asked ↔ scope.isRootBarrel target = true ∧
        (edge.kind = .dynamic ∨
          (edge.kind = .static ∨ edge.kind = .reExport) ∧ edge.bindings = [])) ∧
      (.wholeBarrel "default" ∈ asked ↔ scope.isRootBarrel target = true ∧
        ∃ localName moduleName, .defaultExport localName moduleName ∈ edge.bindings) ∧
      (.wholeBarrel "namespace" ∈ asked ↔ target.isBarrel = true ∧
        ∃ localName, .wholeModule localName ∈ edge.bindings) ∧
      (edge.kind = .static → edge.bindings = [] → ∀ silent : ImportEdge, silent.kind = .sideEffect →
        silent.bindings = [] → (asked = lookups silent target (scope.isRootBarrel target) ↔
          target.isBarrel = false ∨
            scope.isRootBarrel target = false ∧ target.moduleName? = none)) := by
  intro asked
  refine ⟨fun how member => wholeBarrel_mem_lookups edge target _ how member, ?_, ?_, ?_, ?_⟩
  · rw [wholeBarrel_mem_lookups_iff]
    simp only [String.reduceEq, false_and, true_and, false_or]
    refine and_congr_right fun outer => ?_
    have barrel : target.isBarrel = true := (Bool.and_eq_true_iff.mp outer).1
    -- Dynamic imports bind nothing, so that for them this need not be asked.
    have unbound := ImportEdge.extract_bare extracted member
    cases kind : edge.kind <;> simp_all
  · rw [wholeBarrel_mem_lookups_iff]
    simp
  · rw [wholeBarrel_mem_lookups_iff]
    simp
  · intro static unbound silent sideEffect unbound'
    exact lookups_bare_eq_iff unbound (by rw [static]; exact ImportKind.noConfusion) unbound' sideEffect

theorem wholeBarrel_labels_default :
    ∃ edge, ImportEdge.extract ReachableSet.plainResolver shelfTree ⟨"/src/a.ts"⟩
        "import Shelf from './ui'" = .ok [edge] ∧
      .wholeBarrel "default" ∈ lookups edge ⟨"/src/ui/index.ts"⟩
        (shelfScope.isRootBarrel ⟨"/src/ui/index.ts"⟩) := by
  have extracted : ImportEdge.extract ReachableSet.plainResolver shelfTree ⟨"/src/a.ts"⟩
      "import Shelf from './ui'" = .ok [⟨⟨"/src/a.ts"⟩, "./ui", some ⟨"/src/ui/index.ts"⟩,
        [.defaultExport "Shelf" "ui"], false, .static, 1⟩] := by
    apply ReachableSet.ok_of_toOption
    decide +kernel
  obtain ⟨-, -, default, -⟩ := wholeBarrel_labels extracted List.mem_cons_self shelfScope
    ⟨"/src/ui/index.ts"⟩
  exact ⟨_, extracted, default.mpr ⟨by decide, "Shelf", "ui", List.mem_cons_self⟩⟩

/-- A static import that binds nothing counts as a dynamic one, unlike one for side effects. -/
theorem lookups_unbound :
    ∃ unbound silent, ImportEdge.extract ReachableSet.plainResolver shelfTree ⟨"/src/a.ts"⟩
        "import \x7b\x7d from './ui'" = .ok [unbound] ∧
      ImportEdge.extract ReachableSet.plainResolver shelfTree ⟨"/src/a.ts"⟩
        "import './ui'" = .ok [silent] ∧
      unbound.kind = .static ∧ unbound.bindings = [] ∧ silent.kind = .sideEffect ∧
      shelfScope.Covers ⟨"/"⟩ unbound ⟨"/src/ui/index.ts"⟩ ∧
      shelfScope.Covers ⟨"/"⟩ silent ⟨"/src/ui/index.ts"⟩ ∧
      lookups unbound ⟨"/src/ui/index.ts"⟩ (shelfScope.isRootBarrel ⟨"/src/ui/index.ts"⟩) =
        [.wholeBarrel "dynamic"] ∧
      lookups silent ⟨"/src/ui/index.ts"⟩ (shelfScope.isRootBarrel ⟨"/src/ui/index.ts"⟩) = [] := by
  refine ⟨⟨⟨"/src/a.ts"⟩, "./ui", some ⟨"/src/ui/index.ts"⟩, [], false, .static, 1⟩,
    ⟨⟨"/src/a.ts"⟩, "./ui", some ⟨"/src/ui/index.ts"⟩, [], false, .sideEffect, 1⟩, ?_, ?_, rfl, rfl,
    rfl, ⟨rfl, by decide, rfl, by decide, by decide, by decide⟩,
    ⟨rfl, by decide, rfl, by decide, by decide, by decide⟩,
    by decide, by decide⟩
  · apply ReachableSet.ok_of_toOption
    decide +kernel
  · apply ReachableSet.ok_of_toOption
    decide +kernel

end Checks

end UiContract
