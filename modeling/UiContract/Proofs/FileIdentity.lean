import UiContract.Proofs.DisplayedPaths
import UiContract.Proofs.PlainTrees

/-!
One path for every file. From an absolute root on, all paths of a walk are absolute and folded: the entries,
what its imports lead to, its files and the nodes of its graph. Such paths are known from their components,
so files under one path are loaded once; and where no link lies on its way, such a path is the canonical path of
the file that it leads to, so each file is loaded once.
-/
namespace UiContract

namespace Path

theorem root_mem_components (path : Path) : Component.root ∈ path.components ↔ path.isAbsolute = true := by
  rw [← root_mem_solid, solid_eq, List.mem_filter]
  exact (and_iff_left (by decide)).symm

theorem parent_isAbsolute {path directory : Path} (absolute : path.isAbsolute = true)
    (found : path.parent? = some directory) : directory.isAbsolute = true := by
  have kept := path.parent_components directory found
  rw [← root_mem_components] at absolute ⊢
  rw [kept]
  unfold parent? at found
  split at found
  · contradiction
  · contradiction
  · rename_i last apart ends
    obtain ⟨front, whole⟩ := List.getLast?_eq_some_iff.mp ends
    rw [whole] at absolute ⊢
    rw [List.dropLast_concat]
    exact (List.mem_append.mp absolute).resolve_right fun member => apart (List.mem_singleton.mp member).symm

namespace Based

variable {path other : Path}

theorem written (based : path.Based) : path = ofComponents path.components := by
  obtain ⟨steps, settled, same⟩ := (normal_iff path).mp based.normal
  have listed : path.components = steps := by rw [same, ofComponents_components settled.tidy]
  rwa [listed]

theorem eq_of_components (based : path.Based) (based' : other.Based)
    (same : path.components = other.components) : path = other := by
  rw [based.written, based'.written, same]

end Based

end Path

namespace FileTree

variable {tree : FileTree}

/-- No link lies on the way of a path from the top. -/
def Straight (tree : FileTree) (path : Path) : Prop :=
  ∀ front, front <+: path.components.filterMap Component.name? → front ≠ [] →
    ∀ target, tree.entry? front ≠ some (.link target)

theorem walk_straight (onLink : List Name → List Char → List Step → Except FileError (List Name))
    (names place final : List Name) (straight : ∀ front, front <+: names → front ≠ [] →
      ∀ target, tree.entry? (place ++ front) ≠ some (.link target))
    (found : walk onLink tree place (names.map Step.down) = .ok final) : final = place ++ names := by
  induction names generalizing place with
  | nil => exact (Except.ok.inj found).symm.trans (List.append_nil place).symm
  | cons name rest ih =>
      have split : ∀ front, place ++ name :: front = place ++ [name] ++ front := by simp
      have further : ∀ front, front <+: rest → front ≠ [] →
          ∀ target, tree.entry? (place ++ [name] ++ front) ≠ some (.link target) := by
        intro front begins _
        rw [← split]
        exact straight (name :: front) (List.cons_prefix_cons.mpr ⟨rfl, begins⟩) (List.cons_ne_nil _ _)
      have here := straight [name] (List.cons_prefix_cons.mpr ⟨rfl, List.nil_prefix⟩) (List.cons_ne_nil _ _)
      rw [List.map_cons] at found
      unfold walk at found
      split at found
      · contradiction
      · dsimp only at found
        split at found
        · contradiction
        · split at found
          · contradiction
          · rename_i target held
            exact absurd held (here target)
          · rw [split]
            exact ih _ further found

/-- Where no link lies on its way, a folded path is the canonical path of what it leads to. -/
theorem canonical_of_straight {path : Path} (straight : tree.Straight path) (based : path.Based)
    {place : List Name} (located : tree.locate path = .ok place) : pathOf place = path := by
  obtain ⟨names, steps⟩ := based.names
  obtain ⟨-, -, start, begins, follows⟩ := tree.locate_ok path place located
  rw [based.absolute, if_pos rfl] at begins
  obtain rfl := Option.some.inj begins
  have down : (Path.solidOf path.text.toList).filterMap Component.step? = names.map .down := by
    have solid : path.solid = path.components := by
      rw [Path.solid_eq, steps]
      simp
    rw [show Path.solidOf path.text.toList = path.solid from rfl, solid, steps, List.filterMap_cons_none rfl,
      List.filterMap_map]
    exact List.filterMap_eq_map' ▸ rfl
  have spelled : path.components.filterMap Component.name? = names := by
    rw [steps, List.filterMap_cons_none rfl, filterMap_name]
  -- Steps that stay change nothing, and without links each name leads one step down.
  have direct := tree.follow_drops linkLimit (drops_filter _) [] place follows
  rw [filter_stepsOf, down] at direct
  obtain rfl : place = [] ++ names := walk_straight _ names [] place (spelled ▸ straight) direct
  rw [based.written, steps]
  rfl

end FileTree

namespace Resolver

structure Rooted (resolver : Resolver) : Prop where
  root : resolver.root.isAbsolute = true
  targets : ∀ entry ∈ resolver.aliases, entry.2.isAbsolute = true

theorem rooted_of_make {settings : ResolverSettings} {resolver : Resolver}
    (made : make settings = .ok resolver) (absolute : settings.projectRoot.isAbsolute = true) :
    resolver.Rooted := by
  unfold make at made
  split at made
  · contradiction
  · split at made
    · contradiction
    · obtain rfl := Except.ok.inj made
      have root := (Path.normalize_absolute absolute).absolute
      refine ⟨root, fun entry member => ?_⟩
      obtain ⟨written, -, rfl⟩ := List.mem_map.mp (List.mem_mergeSort.mp member)
      exact (Path.normalize_absolute (Path.join_isAbsolute root _)).absolute

theorem aliased_isAbsolute {specifier : List Char} {aliases : List (String × Path)} {path : Path}
    (targets : ∀ entry ∈ aliases, entry.2.isAbsolute = true)
    (found : aliased? specifier aliases = some path) : path.isAbsolute = true := by
  induction aliases with
  | nil => contradiction
  | cons entry others ih =>
      obtain ⟨first, later⟩ := List.forall_mem_cons.mp targets
      unfold aliased? at found
      split at found
      · exact ih later found
      · rwa [← Option.some.inj found]
      · rw [← Option.some.inj found]
        exact Path.join_isAbsolute first _

variable {resolver : Resolver} (rooted : resolver.Rooted) {tree : FileTree} {importer : Path}
  (absolute : importer.isAbsolute = true)

include rooted absolute

theorem candidate_isAbsolute {specifier : List Char} {base : Path}
    (found : resolver.candidate? importer specifier = some base) : base.isAbsolute = true := by
  unfold candidate? at found
  split at found
  · rename_i path led
    rw [← Option.some.inj found]
    exact (Path.normalize_absolute (aliased_isAbsolute rooted.targets led)).absolute
  · split at found
    · rw [← Option.some.inj found]
      refine (Path.normalize_absolute (Path.join_isAbsolute ?_ _)).absolute
      cases above : importer.parent? with
      | none => exact rooted.root
      | some directory => exact Path.parent_isAbsolute absolute above
    · contradiction

/-- What a file imports from below an absolute root has an absolute path, and a folded one. -/
theorem resolve_based (extensions : Attachable resolver.extensions) {target : Path} {specifier : String}
    (found : (resolver.resolve tree importer specifier).file? = some target) : target.Based := by
  refine ⟨?_, resolve_normal extensions found⟩
  unfold resolve at found
  split at found
  · contradiction
  · rename_i base candidate
    have above := candidate_isAbsolute rooted absolute candidate
    split at found
    · rename_i probed
      obtain rfl := Option.some.inj found
      rcases List.mem_append.mp (List.mem_of_find?_eq_some probed) with near | index
      · rcases List.mem_cons.mp near with rfl | extended
        · exact above
        · obtain ⟨extension, -, rfl⟩ := List.mem_map.mp extended
          obtain ⟨more, begins⟩ := List.head?_eq_some_iff.mp (beq_iff_eq.mp above)
          simp [Path.isAbsolute, begins]
      · obtain ⟨extension, -, rfl⟩ := List.mem_map.mp index
        exact Path.join_isAbsolute above _
    · contradiction

end Resolver

namespace Reachability.Walk

variable (resolver : Resolver) (tree : FileTree) (sourceRoot : Path)

def loads : Nat → Walk → List Path
  | 0, _ => []
  | count + 1, walk =>
      match walk.waiting.dropWhile walk.files.contains with
      | [] => []
      | path :: rest =>
          path :: loads count (visit resolver tree sourceRoot { walk with waiting := rest } path)

variable {resolver tree sourceRoot}

theorem fresh_of_dropWhile {walk : Walk} {path : Path} {rest : List Path}
    (next : walk.waiting.dropWhile walk.files.contains = path :: rest) :
    walk.files.contains path = false := by
  have stopped := List.head?_dropWhile_not walk.files.contains walk.waiting
  rw [next] at stopped
  simpa using stopped

theorem contains_visit (walk : Walk) (path other : Path) :
    (walk.visit resolver tree sourceRoot path).files.contains other = true ↔
      other.components = path.components ∨ walk.files.contains other = true := by
  rw [visit_files, SortedMap.contains_insert, Path.compare_eq_iff]

theorem loads_fresh (count : Nat) (walk : Walk) :
    ∀ path ∈ loads resolver tree sourceRoot count walk, walk.files.contains path = false := by
  -- Visited files stay visited, so what is fresh in a later walk was fresh in this one.
  induction count generalizing walk with
  | zero => nofun
  | succ count ih =>
      unfold loads
      split
      · nofun
      · rename_i path rest next
        refine List.forall_mem_cons.mpr ⟨fresh_of_dropWhile next, fun other member => ?_⟩
        have later := ih _ other member
        rw [← Bool.not_eq_true, contains_visit, not_or, Bool.not_eq_true] at later
        exact later.2

theorem loads_apart (count : Nat) (walk : Walk) : (loads resolver tree sourceRoot count walk).Pairwise
    fun first second => first.components ≠ second.components := by
  induction count generalizing walk with
  | zero => exact .nil
  | succ count ih =>
      unfold loads
      split
      · exact .nil
      · rename_i path rest next
        refine List.pairwise_cons.mpr ⟨fun other member same => ?_, ih _⟩
        have later := loads_fresh count _ other member
        rw [← Bool.not_eq_true, contains_visit] at later
        exact later (.inl same.symm)

theorem mem_run_keys (count : Nat) (walk : Walk) (path : Path) :
    path ∈ (run resolver tree sourceRoot count walk).files.keys ↔
      path ∈ walk.files.keys ∨ path ∈ loads resolver tree sourceRoot count walk := by
  induction count generalizing walk with
  | zero => simp [run, loads]
  | succ count ih =>
      unfold run loads
      cases next : walk.waiting.dropWhile walk.files.contains with
      | nil => simp
      | cons visited rest =>
          dsimp only
          rw [ih, visit_files, SortedMap.mem_keys_insert_of_fresh _ _ _ (fresh_of_dropWhile next),
            List.mem_cons, or_assoc, or_left_comm]

/-- What the imports of a visited file lead to is what specifiers lead to from it. -/
theorem knownImports_resolved {path target : Path} {edge : ImportEdge}
    (member : edge ∈ (visited resolver tree path).knownImports) (led : edge.resolved = some target) :
    ∃ specifier, (resolver.resolve tree path specifier).file? = some target := by
  unfold SourceFile.knownImports visited at member
  dsimp only at member
  split at member
  · rename_i edges read
    obtain ⟨bytes, text, -, -, extracted⟩ := importsOf_ok resolver tree path edges
      (Option.some.inj read) edge member
    exact ImportEdge.extract_resolved resolver tree path text edges extracted edge member target led
  · contradiction

end Reachability.Walk

namespace ReachableSet

open Reachability

inductive Mentions (reached : ReachableSet) : Path → Prop where
  | entry {path : Path} : path ∈ reached.entries → Mentions reached path
  | key {path : Path} : path ∈ reached.files.keys → Mentions reached path
  | file {file : SourceFile} : file ∈ reached.files.values → Mentions reached file.path
  | node {path : Path} : path ∈ reached.graph.nodes → Mentions reached path
  | imported {file : SourceFile} {edge : ImportEdge} {path : Path} : file ∈ reached.files.values →
      edge ∈ file.knownImports → edge.resolved = some path → Mentions reached path

section Built

variable {settings : ResolverSettings} {resolver : Resolver} {tree : FileTree} {sourceRoot : String}
  {entries : List String} {reached : ReachableSet} (rooted : resolver.Rooted)
  (extensions : Attachable resolver.extensions)
  (built : build resolver tree sourceRoot entries = .ok reached)

include built

theorem mem_keys_iff (path : Path) : path ∈ reached.files.keys ↔ path ∈ Walk.loads resolver tree
    (resolver.root.configured sourceRoot) pathBound { waiting := reached.entries } := by
  obtain ⟨⟨occupied, files⟩, -⟩ := build_walked resolver tree sourceRoot entries reached built
  obtain ⟨bound, many⟩ : ∃ bound, pathBound = bound := ⟨_, rfl⟩
  have same := build_ok resolver tree sourceRoot entries occupied files _ rfl
  rw [built, many] at same
  obtain rfl := Except.ok.inj same
  rw [many]
  refine (Walk.mem_run_keys bound _ path).trans (or_iff_right ?_)
  exact List.not_mem_nil

include rooted extensions

theorem build_all : (∀ path ∈ reached.entries, path.Based ∧ tree.isFile path = true) ∧
    (∀ path ∈ reached.files.keys, path.Based ∧ tree.isFile path = true) ∧
    ∀ path ∈ reached.graph.nodes, path.Based ∧ tree.isFile path = true := by
  have spreads : ∀ importer target : Path, importer.Based ∧ tree.isFile importer = true →
      Follows resolver tree (resolver.root.configured sourceRoot) importer target →
        target.Based ∧ tree.isFile target = true := by
    intro importer target known follows
    obtain ⟨specifier, led⟩ := follows_resolved resolver tree _ importer target follows
    exact ⟨Resolver.resolve_based rooted known.1.absolute extensions led,
      resolver.resolve_isFile tree importer specifier target led⟩
  obtain ⟨⟨-, files⟩, turns, -, rfl⟩ := build_walked resolver tree sourceRoot entries reached built
  have begins : ∀ path ∈ entries.map (entryPath resolver), path.Based ∧ tree.isFile path = true := by
    intro path member
    obtain ⟨entry, listed, rfl⟩ := List.mem_map.mp member
    exact ⟨Path.normalize_absolute (Path.join_isAbsolute rooted.root _), files entry listed⟩
  let start : Walk := { waiting := entries.map (entryPath resolver) }
  have all : start.All fun path => path.Based ∧ tree.isFile path = true :=
    ⟨begins, List.forall_mem_nil _, List.forall_mem_nil _⟩
  have settled := Walk.turns_all spreads turns all
  exact ⟨begins, settled.visits, settled.nodes⟩

theorem mentions_based {path : Path} (mentioned : reached.Mentions path) :
    path.Based ∧ tree.isFile path = true := by
  obtain ⟨begins, visits, nodes⟩ := build_all rooted extensions built
  cases mentioned with
  | entry member => exact begins path member
  | key member => exact visits path member
  | file member => exact visits _ (build_file built member).1
  | node member => exact nodes path member
  | @imported file edge path member listed led =>
      obtain ⟨known, read, -⟩ := build_value built member
      rw [read] at listed
      obtain ⟨specifier, found⟩ := Walk.knownImports_resolved listed led
      exact ⟨Resolver.resolve_based rooted (visits _ known).1.absolute extensions found,
        resolver.resolve_isFile tree _ specifier path found⟩

theorem mentions_eq {path other : Path} (mentioned : reached.Mentions path)
    (mentioned' : reached.Mentions other) (same : path.components = other.components) : path = other :=
  (mentions_based rooted extensions built mentioned).1.eq_of_components
    (mentions_based rooted extensions built mentioned').1 same

theorem mentions_canonical {path : Path} (mentioned : reached.Mentions path)
    (straight : tree.Straight path) : tree.canonical path = .ok path := by
  obtain ⟨based, file⟩ := mentions_based rooted extensions built mentioned
  obtain ⟨place, bytes, located, -⟩ := tree.isFile_ok file
  unfold FileTree.canonical
  rw [located]
  exact congrArg Except.ok (FileTree.canonical_of_straight straight based located)

omit rooted extensions in
/-- All paths of a set that was built from an absolute root are absolute, folded and lead to files. However a
file was imported, paths with the same components are one path, and what is under one path is loaded once.
A path on whose way no link lies is the canonical one of its file: so two such paths of one file are one path,
and such a file is loaded once. -/
theorem build_identities (made : Resolver.make settings = .ok resolver)
    (absolute : settings.projectRoot.isAbsolute = true)
    (slashless : ∀ extension ∈ settings.extensions, '/' ∉ extension.toList) :
    let loaded := Walk.loads resolver tree (resolver.root.configured sourceRoot) pathBound
      { waiting := reached.entries }
    (∀ path, reached.Mentions path →
      path.normalize = path ∧ path.isAbsolute = true ∧ tree.isFile path = true) ∧
    (∀ path other, reached.Mentions path → reached.Mentions other → path.components = other.components →
      path = other) ∧
    (loaded.Perm reached.files.keys ∧
      loaded.Pairwise fun first second => first.components ≠ second.components) ∧
    (∀ path, reached.Mentions path → tree.Straight path → tree.canonical path = .ok path) ∧
    (∀ path other, reached.Mentions path → reached.Mentions other → tree.Straight path →
      tree.Straight other → tree.locate path = tree.locate other → path = other) ∧
    loaded.Pairwise fun first second => tree.Straight first → tree.Straight second →
      tree.locate first ≠ tree.locate second := by
  intro loaded
  obtain ⟨listed, dotted⟩ := Resolver.extensions_of_make made
  have rooted := Resolver.rooted_of_make made absolute
  have extensions : Attachable resolver.extensions :=
    fun extension member => ⟨dotted extension member, slashless extension (listed ▸ member)⟩
  have keys := mem_keys_iff built
  have apart : loaded.Pairwise fun first second => first.components ≠ second.components :=
    Walk.loads_apart pathBound _
  have once : loaded.Nodup := apart.imp fun differ same => differ (congrArg Path.components same)
  have located : ∀ path other, reached.Mentions path → reached.Mentions other → tree.Straight path →
      tree.Straight other → tree.locate path = tree.locate other → path = other := by
    intro path other mentioned mentioned' straight straight' same
    have first := mentions_canonical rooted extensions built mentioned straight
    have second := mentions_canonical rooted extensions built mentioned' straight'
    unfold FileTree.canonical at first second
    rw [same, second] at first
    exact (Except.ok.inj first).symm
  refine ⟨fun path mentioned => ?_, fun path other => mentions_eq rooted extensions built,
    ⟨(List.perm_ext_iff_of_nodup once (SortedMap.keys_nodup _)).mpr fun path => (keys path).symm, apart⟩,
    fun path => mentions_canonical rooted extensions built, located, ?_⟩
  · obtain ⟨⟨above, normal⟩, file⟩ := mentions_based rooted extensions built mentioned
    exact ⟨normal, above, file⟩
  · refine once.imp_of_mem fun {first second} member member' differ straight straight' same => differ ?_
    exact located first second (.key ((keys first).mpr member)) (.key ((keys second).mpr member'))
      straight straight' same

end Built

def sharedTree : FileTree :=
  (FileTree.add {} ["repo".toList, "src".toList, "x".toList, "main.ts".toList]
    (.file (Text.encode "import './a'".toList))).add
    ["repo".toList, "src".toList, "x".toList, "a.ts".toList] (.file (Text.encode "import '../x/a'".toList))

/-- The same files, with a second name for their directory. -/
def linkedTree : FileTree :=
  sharedTree.add ["repo".toList, "src".toList, "y".toList] (.link "x")

def sharedSettings : ResolverSettings := { projectRoot := ⟨"/repo"⟩ }

def sharedResolver : Resolver :=
  { root := ⟨"/repo"⟩, aliases := [], extensions := sharedSettings.extensions }

theorem sharedResolver_made : Resolver.make sharedSettings = .ok sharedResolver := by
  have dotted : sharedSettings.extensions.find? (fun extension => !Text.startsWith extension ".") = none := by
    decide
  have root : sharedSettings.projectRoot.normalize = ⟨"/repo"⟩ := by decide
  unfold Resolver.make
  rw [dotted, root]
  simp [sharedSettings, sharedResolver]

theorem build_identities_shared : sharedSettings.projectRoot.isAbsolute = true ∧
    (∀ extension ∈ sharedSettings.extensions, '/' ∉ extension.toList) ∧
    linkedTree.Straight ⟨"/repo/src/x/a.ts"⟩ ∧
    ∃ reached, build sharedResolver linkedTree "src" ["src/x/main.ts"] = .ok reached ∧
      reached.Mentions ⟨"/repo/src/x/a.ts"⟩ ∧
      linkedTree.canonical ⟨"/repo/src/x/a.ts"⟩ = .ok ⟨"/repo/src/x/a.ts"⟩ := by
  have absolute : sharedSettings.projectRoot.isAbsolute = true := by decide
  have slashless : ∀ extension ∈ sharedSettings.extensions, '/' ∉ extension.toList := by decide
  have straight : linkedTree.Straight ⟨"/repo/src/x/a.ts"⟩ := by
    have names : (Path.mk "/repo/src/x/a.ts").components.filterMap Component.name? =
        ["repo".toList, "src".toList, "x".toList, "a.ts".toList] := by decide
    have solid : ∀ front ∈ ["repo".toList, "src".toList, "x".toList, "a.ts".toList].inits,
        (linkedTree.entry? front).all (fun entry => !entry.isLink) = true := by decide
    intro front begins some target held
    have direct := solid front (List.mem_inits _ _ |>.mpr (names ▸ begins))
    rw [held] at direct
    exact nomatch direct
  have known : (build sharedResolver linkedTree "src" ["src/x/main.ts"]).toOption.map
      (fun reached => reached.files.keys) = some [⟨"/repo/src/x/a.ts"⟩, ⟨"/repo/src/x/main.ts"⟩] := by
    decide +kernel
  obtain ⟨reached, found, keys⟩ := Option.map_eq_some_iff.mp known
  have built := ok_of_toOption found
  have mentioned : reached.Mentions ⟨"/repo/src/x/a.ts"⟩ := .key (keys ▸ List.mem_cons_self)
  obtain ⟨-, -, -, canonical, -⟩ := build_identities built sharedResolver_made absolute slashless
  exact ⟨absolute, slashless, straight, reached, built, mentioned, canonical _ mentioned straight⟩

/-- A directory with a second name gives its files second paths. -/
theorem loaded_twice : Resolver.make sharedSettings = .ok sharedResolver ∧
    sharedSettings.projectRoot.isAbsolute = true ∧
    (∀ extension ∈ sharedSettings.extensions, '/' ∉ extension.toList) ∧
    ∃ reached, build sharedResolver linkedTree "src" ["src/y/main.ts"] = .ok reached ∧
      reached.files.keys = [⟨"/repo/src/x/a.ts"⟩, ⟨"/repo/src/y/a.ts"⟩, ⟨"/repo/src/y/main.ts"⟩] ∧
      linkedTree.canonical ⟨"/repo/src/x/a.ts"⟩ = .ok ⟨"/repo/src/x/a.ts"⟩ ∧
      linkedTree.canonical ⟨"/repo/src/y/a.ts"⟩ = .ok ⟨"/repo/src/x/a.ts"⟩ := by
  have known : (build sharedResolver linkedTree "src" ["src/y/main.ts"]).toOption.map
      (fun reached => reached.files.keys) =
        some [⟨"/repo/src/x/a.ts"⟩, ⟨"/repo/src/y/a.ts"⟩, ⟨"/repo/src/y/main.ts"⟩] := by
    decide +kernel
  obtain ⟨reached, found, keys⟩ := Option.map_eq_some_iff.mp known
  exact ⟨sharedResolver_made, by decide, by decide, reached, ok_of_toOption found, keys,
    by decide +kernel, by decide +kernel⟩

end ReachableSet

end UiContract
