import UiContract.Proofs.AlikeFiles

/-!
What the entries have to do with what is reached. A walk from two lists of entries reaches what the walks
from either one reach and follows the same imports, so neither the order of the entries nor how often
one is listed changes anything but the number of entries in a report.
-/
namespace UiContract

open Reachability

namespace Reachability

variable (resolver : Resolver) (tree : FileTree) (sourceRoot : Path)

theorem closed_of_append {entries more : List Path} {members : Path → Prop}
    (closed : Closed resolver tree sourceRoot (entries ++ more) members) :
    Closed resolver tree sourceRoot entries members ∧
      Closed resolver tree sourceRoot more members :=
  ⟨⟨fun path member => closed.entry path (List.mem_append_left more member), closed.follow,
      closed.same⟩,
    ⟨fun path member => closed.entry path (List.mem_append_right entries member), closed.follow,
      closed.same⟩⟩

theorem closed_or {entries more : List Path} {members others : Path → Prop}
    (first : Closed resolver tree sourceRoot entries members)
    (second : Closed resolver tree sourceRoot more others) :
    Closed resolver tree sourceRoot (entries ++ more) fun path => members path ∨ others path where
  entry path member :=
    (List.mem_append.mp member).imp (first.entry path) (second.entry path)
  follow importer target known follows :=
    known.imp (first.follow importer target · follows) (second.follow importer target · follows)
  same path other equal known :=
    known.imp (first.same path other equal) (second.same path other equal)

end Reachability

namespace ReachableSet

section Sets

variable {resolver : Resolver} {tree : FileTree} {sourceRoot : String} {entries : List String}
  {reached : ReachableSet} (built : build resolver tree sourceRoot entries = .ok reached)

include built

theorem build_imports (importer target : Path) (kind : ImportKind) :
    reached.graph.Imports importer target kind ↔ reached.contains importer = true ∧
      ∃ path, tree.isFile path = true ∧ path.components = importer.components ∧
        Draws (resolver.root.configured sourceRoot) (Walk.visited resolver tree path) target kind := by
  obtain ⟨walk, -, rfl, sound, drawn⟩ := build_drawn resolver tree sourceRoot entries reached built
  have visited : ∀ file, walk.files.find? importer = some file → ∃ path,
      tree.isFile path = true ∧ path.components = importer.components ∧
        file = Walk.visited resolver tree path := by
    intro file found
    obtain ⟨path, held, same⟩ := SortedMap.mem_of_find _ importer file found
    exact ⟨path, (sound.visits path (List.mem_map_of_mem held)).1,
      ((Path.compare_eq_iff importer path).mp same).symm, sound.read (path, file) held⟩
  dsimp only
  rw [drawn.imports]
  constructor
  · rintro ⟨file, found, draws⟩
    obtain ⟨path, isFile, same, rfl⟩ := visited file found
    refine ⟨?_, path, isFile, same, draws⟩
    show (walk.files.find? importer).isSome = true
    rw [found]
    rfl
  · rintro ⟨known, path, isFile, same, draws⟩
    obtain ⟨file, found⟩ := Option.isSome_iff_exists.mp known
    obtain ⟨path', isFile', same', rfl⟩ := visited file found
    exact ⟨_, found, (draws_congr resolver tree _ (same.trans same'.symm) isFile isFile' target
      kind).mpr draws⟩

theorem build_shape : reached.root = resolver.root ∧
    reached.entries = entries.map (entryPath resolver) ∧ reached.graph.Proper := by
  obtain ⟨walk, -, rfl, -, drawn⟩ := build_drawn resolver tree sourceRoot entries reached built
  exact ⟨rfl, rfl, drawn.proper⟩

theorem build_files : entries ≠ [] ∧
    ∀ entry ∈ entries, tree.isFile (entryPath resolver entry) = true :=
  (build_walked resolver tree sourceRoot entries reached built).1

/-- What stands under a path in a set that was built is the file at the path, read when it was visited. -/
theorem build_entry {path : Path} {file : SourceFile} (member : (path, file) ∈ reached.files.entries) :
    file = Walk.visited resolver tree path ∧ tree.isFile path = true := by
  obtain ⟨walk, -, rfl, sound, -⟩ := build_drawn resolver tree sourceRoot entries reached built
  exact ⟨sound.read _ member, (sound.visits path (List.mem_map_of_mem member)).1⟩

theorem build_value {file : SourceFile} (member : file ∈ reached.files.values) :
    file.path ∈ reached.files.keys ∧ file = Walk.visited resolver tree file.path ∧
      tree.isFile file.path = true := by
  obtain ⟨⟨path, value⟩, held, rfl⟩ := List.mem_map.mp member
  obtain ⟨rfl, opened⟩ := build_entry built held
  exact ⟨List.mem_map_of_mem held, rfl, opened⟩

end Sets

def Agrees (first second : ReachableSet) : Prop :=
  (∀ path, second.contains path = true ↔ first.contains path = true) ∧
    ∀ importer target kind,
      second.graph.Imports importer target kind ↔ first.graph.Imports importer target kind

variable (resolver : Resolver) (tree : FileTree) (sourceRoot : String)

theorem build_exists (entries : List String) (occupied : entries ≠ [])
    (files : ∀ entry ∈ entries, tree.isFile (entryPath resolver entry) = true) :
    ∃ reached, build resolver tree sourceRoot entries = .ok reached :=
  ⟨_, build_ok resolver tree sourceRoot entries occupied files _ rfl⟩

theorem build_append {entries more : List String} {first second : ReachableSet}
    (built : build resolver tree sourceRoot entries = .ok first)
    (built' : build resolver tree sourceRoot more = .ok second) :
    ∃ union, build resolver tree sourceRoot (entries ++ more) = .ok union ∧
      (∀ path, union.contains path = true ↔
        first.contains path = true ∨ second.contains path = true) ∧
      ∀ importer target kind, union.graph.Imports importer target kind ↔
        first.graph.Imports importer target kind ∨ second.graph.Imports importer target kind := by
  obtain ⟨occupied, files⟩ := build_files built
  obtain ⟨-, files'⟩ := build_files built'
  obtain ⟨union, joined⟩ := build_exists resolver tree sourceRoot (entries ++ more)
    (by simp [occupied]) fun entry member =>
      (List.mem_append.mp member).elim (files entry) (files' entry)
  obtain ⟨closed, least⟩ := build_contains built
  obtain ⟨closed', least'⟩ := build_contains built'
  obtain ⟨closedUnion, leastUnion⟩ := build_contains joined
  rw [List.map_append] at closedUnion leastUnion
  obtain ⟨inFirst, inSecond⟩ := closed_of_append resolver tree _ closedUnion
  have contains : ∀ path, union.contains path = true ↔
      first.contains path = true ∨ second.contains path = true := by
    intro path
    -- The two sets together are closed, and the set of all entries is closed for either list.
    constructor
    · exact leastUnion _ (closed_or resolver tree _ closed closed') path
    · rintro (known | known)
      · exact least _ inFirst path known
      · exact least' _ inSecond path known
  refine ⟨union, joined, contains, fun importer target kind => ?_⟩
  rw [build_imports joined, build_imports built, build_imports built', contains, or_and_right]

theorem build_agrees {entries more : List String} {first : ReachableSet}
    (same : ∀ entry, entry ∈ more ↔ entry ∈ entries)
    (built : build resolver tree sourceRoot entries = .ok first) :
    ∃ second, build resolver tree sourceRoot more = .ok second ∧ first.Agrees second := by
  obtain ⟨occupied, files⟩ := build_files built
  have occupied' : more ≠ [] := by
    rintro rfl
    obtain ⟨entry, member⟩ := List.exists_mem_of_ne_nil entries occupied
    exact nomatch (same entry).mpr member
  obtain ⟨second, built'⟩ := build_exists resolver tree sourceRoot more occupied'
    fun entry member => files entry ((same entry).mp member)
  have listed : ∀ path, path ∈ more.map (entryPath resolver) ↔
      path ∈ entries.map (entryPath resolver) := by
    intro path
    simp only [List.mem_map, same]
  obtain ⟨closed, least⟩ := build_contains built
  obtain ⟨closed', least'⟩ := build_contains built'
  have contains : ∀ path, second.contains path = true ↔ first.contains path = true := fun path =>
    ⟨least' _ ⟨fun other member => closed.entry other ((listed other).mp member), closed.follow,
        closed.same⟩ path,
      least _ ⟨fun other member => closed'.entry other ((listed other).mpr member), closed'.follow,
        closed'.same⟩ path⟩
  refine ⟨second, built', contains, fun importer target kind => ?_⟩
  rw [build_imports built, build_imports built', contains]

variable {resolver tree sourceRoot}

theorem files_alike (nested : tree.Nested) {entries more : List String}
    {first second : ReachableSet}
    (built : build resolver tree sourceRoot entries = .ok first)
    (built' : build resolver tree sourceRoot more = .ok second)
    (contains : ∀ path, second.contains path = true ↔ first.contains path = true) :
    List.Forall₂ SourceFile.Alike first.files.values second.files.values := by
  obtain ⟨walk, -, rfl, sound, -⟩ := build_drawn resolver tree sourceRoot entries first built
  obtain ⟨walk', -, rfl, sound', -⟩ := build_drawn resolver tree sourceRoot more second built'
  have keys := SortedMap.keys_forall₂ walk.files walk'.files fun path => (contains path).symm
  have values : ∀ files : SortedMap Path SourceFile,
      (∀ entry ∈ files.entries, entry.2 = Walk.visited resolver tree entry.1) →
        files.values = files.keys.map (Walk.visited resolver tree) := by
    intro files read
    rw [SortedMap.values, SortedMap.keys, List.map_map]
    exact List.map_congr_left read
  dsimp only
  rw [values _ sound.read, values _ sound'.read, List.forall₂_map_left_iff,
    List.forall₂_map_right_iff]
  -- The keys ascend and have the same components, so what stands side by side is one file.
  refine List.forall₂_iff_zip.mpr ⟨keys.length_eq, fun {path other} paired => ?_⟩
  obtain ⟨member, member'⟩ := List.of_mem_zip paired
  have same := (Path.compare_eq_iff path other).mp ((List.forall₂_iff_zip.mp keys).2 paired)
  exact visited_alike resolver tree same (sound.visits path member).1 (sound'.visits other member').1
    nested

end ReachableSet

namespace Gate

open ReachableSet

def counted (entries : Nat) (report : Report) : Report :=
  { report with reachability := { report.reachability with entries } }

/-- Gates whose sets agree and list alike files give the same reports, but for the entries. -/
theorem run_reentered [Engine] (gate : Gate) (entries : List String) (reachable : ReachableSet)
    (files : List.Forall₂ SourceFile.Alike gate.reachable.files.values reachable.files.values)
    (root : reachable.root = gate.reachable.root)
    (edges : reachable.graph.edges.length = gate.reachable.graph.edges.length)
    (contains : ∀ path, reachable.contains path = true ↔ gate.reachable.contains path = true)
    (options : RunOptions) :
    ({ gate with config := { gate.config with entries }, reachable } : Gate).run options =
      counted reachable.entries.length (gate.run options) := by
  have context : ({ gate with config := { gate.config with entries }, reachable } : Gate).context
      options.strict = Checks.reentered (gate.context options.strict) entries reachable := by
    unfold Gate.context Checks.reentered
    dsimp only
    rw [root]
  have outcomes : ∀ check,
      ({ gate with config := { gate.config with entries }, reachable } : Gate).outcome
        options.strict check = gate.outcome options.strict check := by
    intro check
    have found := Checks.findings_reentered (gate.context options.strict) entries reachable files
      (fun path => Bool.eq_iff_iff.mpr (contains path)) check
    unfold outcome
    rw [context, found]
    cases check <;> rfl
  have size : reachable.size = gate.reachable.size := by
    have lengths := files.length_eq
    rw [SortedMap.values, SortedMap.values, List.length_map, List.length_map] at lengths
    exact lengths.symm
  unfold run stats
  rw [funext outcomes]
  dsimp only
  rw [size, edges]
  rfl

/-- Other entries with the same members make a gate that differs in what it reaches at most in how
paths are written. -/
theorem prepare_agrees {tree : FileTree} (nested : tree.Nested) {root : Path} {config : GateConfig}
    {entries : List String} {gate : Gate} (same : ∀ entry, entry ∈ entries ↔ entry ∈ config.entries)
    (prepared : prepare tree root config = .ok gate) :
    ∃ reachable, prepare tree root { config with entries } =
        .ok { gate with config := { gate.config with entries }, reachable } ∧
      gate.reachable.Agrees reachable ∧
      List.Forall₂ SourceFile.Alike gate.reachable.files.values reachable.files.values ∧
      reachable.root = gate.reachable.root ∧ reachable.entries.length = entries.length ∧
      reachable.graph.edges.length = gate.reachable.graph.edges.length := by
  obtain ⟨resolver, made, reachable, built, rfl⟩ := prepare_ok tree root config gate prepared
  obtain ⟨other, built', agrees⟩ := build_agrees resolver tree config.sourceRoot same built
  obtain ⟨rooted, -, proper⟩ := build_shape built
  obtain ⟨rooted', listed, proper'⟩ := build_shape built'
  have roots : other.root = reachable.root := rooted'.trans rooted.symm
  refine ⟨other, ?_, agrees, files_alike nested built built' agrees.1, roots, ?_,
    other.graph.edges_length_congr proper' proper agrees.2⟩
  · unfold prepare
    dsimp only
    rw [made]
    dsimp only
    rw [built']
    dsimp only
    rw [roots]
  · rw [listed, List.length_map]

/-- What a walk reaches from two lists of entries together is what it reaches from either one, and so
is what it follows. Entries may thus be listed in any order and repeatedly: that changes neither the files
nor the edges, and of the reports of a gate nothing but the number of entries. -/
theorem run_entry_order [Engine] (tree : FileTree) :
    (∀ resolver sourceRoot entries more first second,
      build resolver tree sourceRoot entries = .ok first →
      build resolver tree sourceRoot more = .ok second →
      ∃ union, build resolver tree sourceRoot (entries ++ more) = .ok union ∧
        (∀ path, union.contains path = true ↔
          first.contains path = true ∨ second.contains path = true) ∧
        ∀ importer target kind, union.graph.Imports importer target kind ↔
          first.graph.Imports importer target kind ∨
            second.graph.Imports importer target kind) ∧
    (∀ resolver sourceRoot entries more first, (∀ entry, entry ∈ more ↔ entry ∈ entries) →
      build resolver tree sourceRoot entries = .ok first →
      ∃ second, build resolver tree sourceRoot more = .ok second ∧
        (∀ path, second.contains path = true ↔ first.contains path = true) ∧
        ∀ importer target kind, second.graph.Imports importer target kind ↔
          first.graph.Imports importer target kind) ∧
    (tree.Nested → ∀ root (config : GateConfig) entries gate,
      (∀ entry, entry ∈ entries ↔ entry ∈ config.entries) →
      prepare tree root config = .ok gate →
      ∃ other, prepare tree root { config with entries } = .ok other ∧
        ∀ options, other.run options = counted entries.length (gate.run options)) := by
  refine ⟨fun resolver sourceRoot entries more first second => build_append resolver tree sourceRoot,
    fun resolver sourceRoot entries more first => build_agrees resolver tree sourceRoot, ?_⟩
  intro nested root config entries gate same prepared
  obtain ⟨reachable, prepared', agrees, files, roots, length, edges⟩ :=
    prepare_agrees nested same prepared
  refine ⟨_, prepared', fun options => ?_⟩
  rw [run_reentered gate entries reachable files roots edges agrees.1 options, length]

def cyclicConfig : GateConfig :=
  { schemaVersion := 1, sourceRoot := "src", entries := ["src/a.ts", "src/b.ts"],
    extensions := [".ts"] }

section Examples

attribute [local instance] Engine.rough

theorem run_entry_order_cyclic : cyclicTree.Nested ∧
    (∃ first second union, build plainResolver cyclicTree "src" ["src/a.ts"] = .ok first ∧
      build plainResolver cyclicTree "src" ["src/b.ts"] = .ok second ∧
      build plainResolver cyclicTree "src" ["src/a.ts", "src/b.ts"] = .ok union ∧
      ∀ path, union.contains path = true ↔
        first.contains path = true ∨ second.contains path = true) ∧
    ∃ gate other, prepare cyclicTree ⟨"/"⟩ cyclicConfig = .ok gate ∧
      prepare cyclicTree ⟨"/"⟩ { cyclicConfig with entries := ["src/b.ts", "src/a.ts", "src/b.ts"] } =
        .ok other ∧
      ∀ options, other.run options = counted 3 (gate.run options) := by
  have nested : cyclicTree.Nested := FileTree.nested_of_entries cyclicTree (by decide)
  have shuffled : ∀ entry, entry ∈ ["src/b.ts", "src/a.ts", "src/b.ts"] ↔
      entry ∈ cyclicConfig.entries := by
    intro entry
    simp only [cyclicConfig, List.mem_cons, List.not_mem_nil, or_false]
    exact ⟨by rintro (rfl | rfl | rfl) <;> simp, by rintro (rfl | rfl) <;> simp⟩
  obtain ⟨union, -, reports⟩ := run_entry_order cyclicTree
  obtain ⟨first, built⟩ := exists_of_isOk (build plainResolver cyclicTree "src" ["src/a.ts"])
    (by decide)
  obtain ⟨second, built'⟩ := exists_of_isOk (build plainResolver cyclicTree "src" ["src/b.ts"])
    (by decide)
  obtain ⟨gate, prepared⟩ := exists_of_isOk (prepare cyclicTree ⟨"/"⟩ cyclicConfig)
    (by decide)
  obtain ⟨joined, built'', contains, -⟩ := union _ _ _ _ _ _ built built'
  obtain ⟨other, prepared', same⟩ := reports nested _ _ _ _ shuffled prepared
  exact ⟨nested, ⟨first, second, joined, built, built', built'', contains⟩,
    gate, other, prepared, prepared', same⟩

end Examples

end Gate

end UiContract
