import UiContract.Checks.Parse
import UiContract.Proofs.Reachability
import UiContract.Proofs.ShortestChain

/-!
What the graph of a walk says. A file has a node as soon as it waits, and its imports become edges when
it is visited; when nothing waits any more the nodes are the visited files, and the edges are told by
the imports that these declare.
-/
namespace UiContract

open ImportGraph

namespace Reachability

variable (resolver : Resolver) (tree : FileTree) (sourceRoot : Path)

/-- Whether an import is followed and leads to the target, however its path is written. -/
def leadsTo (target : Path) (edge : ImportEdge) : Bool :=
  edge.isFollowable && edge.resolved.any fun file => file.same target && file.startsWith sourceRoot

theorem leadsTo_iff (target : Path) (edge : ImportEdge) : leadsTo sourceRoot target edge = true ↔
    ∃ file, followed? sourceRoot edge = some file ∧ file.components = target.components := by
  unfold leadsTo followed?
  cases edge.resolved with
  | none => simp
  | some file =>
      simp only [Option.any_some, Bool.and_eq_true, Path.same_iff, Option.ite_none_right_eq_some,
        Option.some.injEq]
      constructor
      · rintro ⟨followable, same, below⟩
        exact ⟨file, ⟨⟨followable, below⟩, rfl⟩, same⟩
      · rintro ⟨_, ⟨⟨followable, below⟩, rfl⟩, same⟩
        exact ⟨followable, same, below⟩

def Draws (file : SourceFile) (target : Path) (kind : ImportKind) : Prop :=
  ∃ edge, file.knownImports.find? (leadsTo sourceRoot target) = some edge ∧ edge.kind = kind

theorem draws_iff (file : SourceFile) (target : Path) (kind : ImportKind) :
    Draws sourceRoot file target kind ↔ ∃ edges, file.imports = some (.ok edges) ∧
      ∃ edge, edges.find? (leadsTo sourceRoot target) = some edge ∧ edge.kind = kind := by
  unfold Draws SourceFile.knownImports
  split
  · rename_i edges read
    simp [read]
  · rename_i unread
    constructor
    · rintro ⟨edge, hit, -⟩
      contradiction
    · rintro ⟨edges, read, -⟩
      exact absurd read (unread edges)

/-- The second graph is the first one with the edges of a file: one to each file that an import leads
to, of the kind of the first such import. Edges that are there stay as they are. -/
structure Followed (importer : Path) (edges : List ImportEdge) (graph larger : ImportGraph) :
    Prop where
  proper : larger.Proper
  grows : graph.Grows larger
  finds : ∀ path, (larger.find? path).isSome = true ↔
    (graph.find? path).isSome = true ∨ ∃ edge ∈ edges, leadsTo sourceRoot path edge = true
  imports : ∀ first target kind, larger.Imports first target kind ↔
    graph.Imports first target kind ∨ first.components = importer.components ∧
      (∀ earlier, ¬ graph.Imports first target earlier) ∧
      ∃ edge, edges.find? (leadsTo sourceRoot target) = some edge ∧ edge.kind = kind

namespace Followed

variable {sourceRoot} {importer : Path} {graph : ImportGraph}

theorem nil (proper : graph.Proper) : Followed sourceRoot importer [] graph graph :=
  ⟨proper, .refl _, by simp, by simp⟩

theorem idle (proper : graph.Proper) {edge : ImportEdge} (led : followed? sourceRoot edge = none) :
    Followed sourceRoot importer [edge] graph graph := by
  have never : ∀ target, leadsTo sourceRoot target edge = false := by
    intro target
    rw [← Bool.not_eq_true, leadsTo_iff, led]
    simp
  exact ⟨proper, .refl _, by simp [never], by simp [never]⟩

theorem single (proper : graph.Proper) {number : Nat}
    (known : graph.find? importer = some number) {edge : ImportEdge} {file : Path}
    (led : followed? sourceRoot edge = some file) :
    Followed sourceRoot importer [edge] graph (graph.addEdge number file edge.kind) := by
  have leads : ∀ target, leadsTo sourceRoot target edge = true ↔
      target.components = file.components := by
    intro target
    rw [leadsTo_iff, led]
    simp [eq_comm]
  have inside := Nat.lt_of_lt_of_le (graph.find_lt importer known) (graph.length_le_addFile file)
  refine ⟨graph.proper_addEdge file proper edge.kind inside,
    graph.addEdge_grows file number edge.kind, fun path => ?_, fun first target kind => ?_⟩
  · rw [find_addEdge, find_addFile_isSome, or_comm]
    simp [leads]
  · rw [graph.imports_addEdge file proper known]
    simp only [List.find?_singleton, Option.ite_none_right_eq_some, Option.some.injEq, leads]
    refine or_congr_right ⟨?_, ?_⟩
    · rintro ⟨same, hit, kind', fresh⟩
      exact ⟨same, fresh, edge, ⟨hit, rfl⟩, kind'⟩
    · rintro ⟨same, fresh, _, ⟨hit, rfl⟩, kind'⟩
      exact ⟨same, hit, kind', fresh⟩

/-- Of imports that are followed one after the other the earlier ones decide. -/
theorem append {edges later : List ImportEdge} {middle larger : ImportGraph}
    (front : Followed sourceRoot importer edges graph middle)
    (back : Followed sourceRoot importer later middle larger) :
    Followed sourceRoot importer (edges ++ later) graph larger := by
  refine ⟨back.proper, front.grows.trans back.grows, fun path => ?_, fun first target kind => ?_⟩
  · rw [back.finds, front.finds, or_assoc]
    simp only [List.mem_append, or_and_right, exists_or]
  · simp only [back.imports, front.imports, List.find?_append]
    cases hit : edges.find? (leadsTo sourceRoot target) with
    | none => simp
    | some edge =>
        simp only [Option.some.injEq, exists_eq_left', Option.some_or]
        refine or_iff_left ?_
        -- What an earlier import leads to has an edge by now.
        rintro ⟨same, fresh, -⟩
        exact fresh edge.kind (.inr ⟨same, fun earlier old => fresh earlier (.inl old), rfl⟩)

theorem imports_of_leadsTo {edges : List ImportEdge} {larger : ImportGraph}
    (followed : Followed sourceRoot importer edges graph larger) {target : Path} {edge : ImportEdge}
    (member : edge ∈ edges) (leads : leadsTo sourceRoot target edge = true) :
    ∃ kind, larger.Imports importer target kind := by
  by_cases old : ∃ kind, graph.Imports importer target kind
  · obtain ⟨kind, imports⟩ := old
    exact ⟨kind, (followed.imports importer target kind).mpr (.inl imports)⟩
  · obtain ⟨first, isFirst⟩ := Option.isSome_iff_exists.mp (List.find?_isSome.mpr ⟨edge, member, leads⟩)
    exact ⟨first.kind, (followed.imports importer target first.kind).mpr
      (.inr ⟨rfl, not_exists.mp old, first, isFirst, rfl⟩)⟩

end Followed

theorem follow_graph (edges : List ImportEdge) (walk : Walk) (proper : walk.graph.Proper)
    (importer : Path) (number : Nat) (known : walk.graph.find? importer = some number) :
    Followed sourceRoot importer edges walk.graph
      (edges.foldl (Walk.follow sourceRoot number) walk).graph := by
  induction edges generalizing walk with
  | nil => exact .nil proper
  | cons edge rest ih =>
      have first : Followed sourceRoot importer [edge] walk.graph
          (walk.follow sourceRoot number edge).graph := by
        unfold Walk.follow
        cases led : followed? sourceRoot edge with
        | none => exact .idle proper led
        | some file => exact .single proper known led
      exact first.append (ih _ first.proper (first.grows.finds importer number known))

namespace Walk

def Meets (walk : Walk) (path : Path) : Prop :=
  ∃ other, other.components = path.components ∧ walk.Knows other

structure Drawn (entries : List Path) (walk : Walk) : Prop where
  proper : walk.graph.Proper
  nodes : ∀ path, (walk.graph.find? path).isSome = true → walk.Meets path
  visits : ∀ path, walk.files.contains path = true → (walk.graph.find? path).isSome = true
  waits : ∀ path ∈ walk.waiting, path ∈ entries ∨ (walk.graph.find? path).isSome = true
  imports : ∀ importer target kind, walk.graph.Imports importer target kind ↔
    ∃ file, walk.files.find? importer = some file ∧ Draws sourceRoot file target kind
  routes : ∀ path node, walk.graph.find? path = some node →
    ∃ earlier, Route walk.graph (entries.filterMap walk.graph.find?) (node :: earlier)

variable {resolver tree sourceRoot} {entries : List Path}

variable (sourceRoot entries) in
theorem start_drawn : Drawn sourceRoot entries { waiting := entries } where
  proper := proper_empty
  nodes _ found := nomatch found
  visits _ known := nomatch known
  waits _ member := .inl member
  imports importer target kind := by
    constructor
    · rintro ⟨edge, member, -⟩
      contradiction
    · rintro ⟨file, found, -⟩
      contradiction
  routes _ _ found := nomatch found

theorem skip_drawn {walk : Walk} (drawn : walk.Drawn sourceRoot entries) {path : Path}
    {rest : List Path} (waiting : walk.waiting = path :: rest)
    (known : walk.files.contains path = true) :
    { walk with waiting := rest : Walk }.Drawn sourceRoot entries where
  proper := drawn.proper
  nodes other found := by
    obtain ⟨spelled, same, knows⟩ := drawn.nodes other found
    exact ⟨spelled, same, knows_skip waiting known knows⟩
  visits := drawn.visits
  waits other member := drawn.waits other (by rw [waiting]; exact List.mem_cons_of_mem path member)
  imports := drawn.imports
  routes := drawn.routes

section Visit

variable (resolver tree) {walk : Walk} (drawn : walk.Drawn sourceRoot entries) (path : Path)
  (rest : List Path)

include drawn

theorem visit_graph : Followed sourceRoot path (visited resolver tree path).knownImports
    (walk.graph.addFile path).1
    ({ walk with waiting := rest : Walk }.visit resolver tree sourceRoot path).graph :=
  follow_graph sourceRoot _ { walk with waiting := rest, graph := (walk.graph.addFile path).1 }
    (walk.graph.proper_addFile path drawn.proper) path _ (walk.graph.find_addFile_self path)

/-- A visit gives nodes to the visited file and to the files that it leads to. -/
theorem visit_finds (other : Path) :
    (({ walk with waiting := rest : Walk }.visit resolver tree sourceRoot path).graph.find?
        other).isSome = true ↔
      (other.components = path.components ∨ (walk.graph.find? other).isSome = true) ∨
        ∃ file, Follows resolver tree sourceRoot path file ∧ file.components = other.components := by
  rw [(visit_graph resolver tree drawn path rest).finds, ImportGraph.find_addFile_isSome]
  refine or_congr_right ⟨?_, ?_⟩
  · rintro ⟨edge, member, hit⟩
    obtain ⟨file, led, same⟩ := (leadsTo_iff sourceRoot other edge).mp hit
    exact ⟨file, (mem_knownImports resolver tree sourceRoot path file).mp ⟨edge, member, led⟩, same⟩
  · rintro ⟨file, follows, same⟩
    obtain ⟨edge, member, led⟩ := (mem_knownImports resolver tree sourceRoot path file).mpr follows
    exact ⟨edge, member, (leadsTo_iff sourceRoot other edge).mpr ⟨file, led, same⟩⟩

theorem visit_imports (fresh : walk.files.contains path = false) (importer target : Path)
    (kind : ImportKind) :
    ({ walk with waiting := rest : Walk }.visit resolver tree sourceRoot path).graph.Imports
        importer target kind ↔
      ∃ file, ({ walk with waiting := rest : Walk }.visit resolver tree sourceRoot path).files.find?
        importer = some file ∧ Draws sourceRoot file target kind := by
  rw [visit_files, SortedMap.find_insert]
  simp only [(visit_graph resolver tree drawn path rest).imports,
    walk.graph.imports_addFile path drawn.proper, drawn.imports]
  -- The file itself had no edges before; those of the other files stay.
  by_cases same : compare importer path = .eq
  · have unknown : walk.files.find? importer = none := by
      rw [SortedMap.find_congr _ same]
      simpa [SortedMap.contains] using fresh
    simp [unknown, same, (Path.compare_eq_iff importer path).mp same, Draws]
  · have apart : importer.components ≠ path.components :=
      fun equal => same ((Path.compare_eq_iff importer path).mpr equal)
    simp [same, apart]

/-- The visited file is an entry, or an import that was followed led to it; so ways lead to it and to
the files that its imports lead to. -/
theorem visit_routes (reached : path ∈ entries ∨ (walk.graph.find? path).isSome = true)
    (other : Path) (node : Nat)
    (found : ({ walk with waiting := rest : Walk }.visit resolver tree sourceRoot path).graph.find?
      other = some node) :
    ∃ earlier, Route ({ walk with waiting := rest : Walk }.visit resolver tree sourceRoot path).graph
      (entries.filterMap ({ walk with waiting := rest : Walk }.visit resolver tree sourceRoot
        path).graph.find?) (node :: earlier) := by
  have followed := visit_graph resolver tree drawn path rest
  have finds := visit_finds resolver tree drawn path rest
  generalize ({ walk with waiting := rest : Walk }.visit resolver tree sourceRoot path).graph = after
    at followed finds found ⊢
  have grows := (walk.graph.addFile_grows path).trans followed.grows
  have begins : ∀ start ∈ entries.filterMap walk.graph.find?,
      start ∈ entries.filterMap after.find? := by
    intro start member
    obtain ⟨entry, listed, known⟩ := List.mem_filterMap.mp member
    exact List.mem_filterMap.mpr ⟨entry, listed, grows.finds entry start known⟩
  have kept : ∀ file number, walk.graph.find? file = some number →
      after.find? file = some number ∧
        ∃ earlier, Route after (entries.filterMap after.find?) (number :: earlier) := by
    intro file number known
    obtain ⟨earlier, route⟩ := drawn.routes file number known
    exact ⟨grows.finds file number known, earlier, route.mono begins grows.edges⟩
  obtain ⟨number, known, earlier, route⟩ : ∃ number, after.find? path = some number ∧
      ∃ earlier, Route after (entries.filterMap after.find?) (number :: earlier) := by
    rcases reached with entry | old
    · obtain ⟨number, known⟩ := Option.isSome_iff_exists.mp ((finds path).mpr (.inl (.inl rfl)))
      exact ⟨number, known, [], .start (List.mem_filterMap.mpr ⟨path, entry, known⟩)⟩
    · obtain ⟨number, known⟩ := Option.isSome_iff_exists.mp old
      exact ⟨number, kept path number known⟩
  -- A node is the visited file, an old one, or one step behind the visited file.
  rcases (finds other).mp (by rw [found]; rfl) with (same | old) | ⟨file, follows, same⟩
  · rw [after.find_congr same, known] at found
    rw [← Option.some.inj found]
    exact ⟨earlier, route⟩
  · obtain ⟨number', known'⟩ := Option.isSome_iff_exists.mp old
    obtain ⟨found', route'⟩ := kept other number' known'
    rw [found] at found'
    rw [Option.some.inj found']
    exact route'
  · obtain ⟨edge, member, led⟩ := (mem_knownImports resolver tree sourceRoot path file).mpr follows
    have imports := followed.imports_of_leadsTo member
      ((leadsTo_iff sourceRoot other edge).mpr ⟨file, led, same⟩)
    exact ⟨number :: earlier, route.step ((after.imports_iff_hasEdge known found).mp imports)⟩

end Visit

theorem visit_drawn {walk : Walk} (drawn : walk.Drawn sourceRoot entries) {path : Path}
    {rest : List Path} (waiting : walk.waiting = path :: rest)
    (fresh : walk.files.contains path = false) :
    ({ walk with waiting := rest : Walk }.visit resolver tree sourceRoot path).Drawn
      sourceRoot entries := by
  have finds := visit_finds resolver tree drawn path rest
  have waits := mem_visit_waiting resolver tree sourceRoot { walk with waiting := rest } path
  constructor
  case proper =>
    exact (visit_graph resolver tree drawn path rest).proper
  case nodes =>
    intro other found
    rcases (finds other).mp found with (same | old) | ⟨file, follows, same⟩
    · refine ⟨path, same.symm, .inr ?_⟩
      rw [visit_files, SortedMap.contains_insert]
      exact .inl Std.ReflCmp.compare_self
    · obtain ⟨spelled, same, knows⟩ := drawn.nodes other old
      exact ⟨spelled, same, knows_visit waiting knows⟩
    · refine ⟨file, same, ?_⟩
      by_cases known : walk.files.contains file = true
      · exact knows_visit waiting (.inr known)
      · exact .inl ((waits file).mpr (.inr ⟨by simpa using known, follows⟩))
  case visits =>
    intro other known
    rw [visit_files, SortedMap.contains_insert, Path.compare_eq_iff] at known
    exact (finds other).mpr (.inl (known.imp_right (drawn.visits other)))
  case waits =>
    intro other member
    rcases (waits other).mp member with old | ⟨-, follows⟩
    · refine (drawn.waits other (by rw [waiting]; exact List.mem_cons_of_mem path old)).imp_right ?_
      exact fun found => (finds other).mpr (.inl (.inr found))
    · exact .inr ((finds other).mpr (.inr ⟨other, follows, rfl⟩))
  case imports =>
    exact visit_imports resolver tree drawn path rest fresh
  case routes =>
    exact visit_routes resolver tree drawn path rest
      (drawn.waits path (by rw [waiting]; exact List.mem_cons_self))

theorem turn_drawn {walk : Walk} (drawn : walk.Drawn sourceRoot entries) :
    (walk.turn resolver tree sourceRoot).Drawn sourceRoot entries := by
  unfold turn
  split
  · exact drawn
  · rename_i path rest waiting
    by_cases known : walk.files.contains path = true
    · rw [if_pos known]
      exact skip_drawn drawn waiting known
    · rw [if_neg known]
      exact visit_drawn drawn waiting (by simpa using known)

theorem turns_drawn {walk : Walk} (drawn : walk.Drawn sourceRoot entries) (turns : Nat) :
    ((turn resolver tree sourceRoot)^[turns] walk).Drawn sourceRoot entries := by
  induction turns generalizing walk with
  | zero => exact drawn
  | succ turns ih => exact ih (turn_drawn drawn)

theorem Drawn.node_iff {walk : Walk} (drawn : walk.Drawn sourceRoot entries)
    (done : walk.waiting = []) (path : Path) :
    (walk.graph.find? path).isSome = true ↔ walk.files.contains path = true := by
  refine ⟨fun found => ?_, drawn.visits path⟩
  obtain ⟨other, same, waits | known⟩ := drawn.nodes path found
  · rw [done] at waits
    contradiction
  · unfold SortedMap.contains at known ⊢
    rwa [SortedMap.find_congr _ ((Path.compare_eq_iff path other).mpr same.symm)]

end Walk

end Reachability

namespace ReachableSet

open Reachability

variable (resolver : Resolver) (tree : FileTree) (sourceRoot : String) (entries : List String)
  (reached : ReachableSet)

/-- A set that was built is what a walk has reached in which nothing waits any more. -/
theorem build_drawn (built : build resolver tree sourceRoot entries = .ok reached) :
    ∃ walk : Walk, walk.waiting = [] ∧
      reached = { root := resolver.root, entries := entries.map (entryPath resolver),
                  files := walk.files, graph := walk.graph } ∧
      walk.Sound resolver tree (resolver.root.configured sourceRoot)
        (entries.map (entryPath resolver)) ∧
      walk.Drawn (resolver.root.configured sourceRoot) (entries.map (entryPath resolver)) := by
  obtain ⟨⟨-, files⟩, turns, done, same⟩ :=
    build_walked resolver tree sourceRoot entries reached built
  refine ⟨_, done, same, Walk.turns_sound (Walk.start_sound _ _ _ _ ?_) turns,
    Walk.turns_drawn (Walk.start_drawn _ _) turns⟩
  intro path member
  obtain ⟨entry, listed, rfl⟩ := List.mem_map.mp member
  exact files entry listed

variable {resolver tree sourceRoot entries reached} in
/-- What was reached is told by the entries alone: it is the least closed set that holds them. -/
theorem build_contains (built : build resolver tree sourceRoot entries = .ok reached) :
    Closed resolver tree (resolver.root.configured sourceRoot) (entries.map (entryPath resolver))
        (fun path => reached.contains path = true) ∧
      ∀ members, Closed resolver tree (resolver.root.configured sourceRoot)
        (entries.map (entryPath resolver)) members →
          ∀ path, reached.contains path = true → members path := by
  obtain ⟨walk, done, rfl, sound, -⟩ := build_drawn resolver tree sourceRoot entries reached built
  exact ⟨Walk.closed_of_done sound done, Walk.least_of_sound sound⟩

/-- The check for files that cannot be parsed finds one error for each file with a failure and none
else. -/
theorem parse_forall₂ (context : CheckContext) :
    List.Forall₂ (fun file violation => violation.rule = .parse ∧
        violation.subject = file.relativePath ∧ file.failure? = some violation.message)
      (context.files.filter fun file => file.failure?.isSome) (Checks.parse context) := by
  unfold Checks.parse ReachableSet.failures CheckContext.files
  induction context.reachable.files.values with
  | nil => exact .nil
  | cons file rest ih =>
      cases failed : file.failure? with
      | none => simpa [failed] using ih
      | some reason =>
          simp only [List.filter_cons, List.filterMap_cons, failed, Option.isSome_some, if_true,
            Option.map_some, List.map_cons]
          refine .cons ?_ ih
          rw [Violation.withHint, if_neg (by decide)]
          exact ⟨rfl, rfl, failed⟩

theorem values_apart (built : build resolver tree sourceRoot entries = .ok reached) :
    reached.files.values.Pairwise fun first second =>
      first.path.components ≠ second.path.components := by
  obtain ⟨walk, -, rfl, sound, -⟩ := build_drawn resolver tree sourceRoot entries reached built
  refine List.pairwise_map.mpr (walk.files.ascending.imp_of_mem ?_)
  intro first second member member' before same
  rw [sound.read first member, sound.read second member'] at same
  rw [(Path.compare_eq_iff first.1 second.1).mpr same] at before
  contradiction

/-- The graph of a set that was built: its nodes are the files, each once; it has one edge for two
files where the first one, read without failure, has an import that is followed and leads to the second,
of the kind of the first such import. A file with a failure imports nothing and is reported once. There
is a chain of imports to exactly the files, and it leads from an entry to the file. -/
theorem build_graph (built : build resolver tree sourceRoot entries = .ok reached) :
    let below := resolver.root.configured sourceRoot
    ((∀ path, (∃ node ∈ reached.graph.nodes, node.components = path.components) ↔
        reached.contains path = true) ∧ reached.graph.Proper) ∧
      (∀ importer target kind, reached.graph.Imports importer target kind ↔
        ∃ file edges edge, reached.files.find? importer = some file ∧
          file.imports = some (.ok edges) ∧ edges.find? (leadsTo below target) = some edge ∧
          edge.kind = kind) ∧
      ((∀ importer file reason, reached.files.find? importer = some file →
          file.failure? = some reason → ∀ target kind, ¬ reached.graph.Imports importer target kind) ∧
        reached.files.values.Pairwise (fun first second =>
          first.path.components ≠ second.path.components) ∧
        ∀ context : CheckContext, context.reachable = reached →
          List.Forall₂ (fun file violation => violation.rule = .parse ∧
              violation.subject = file.relativePath ∧ file.failure? = some violation.message)
            (reached.files.values.filter fun file => file.failure?.isSome) (Checks.parse context)) ∧
      ∀ path, ((reached.chainTo path).isSome = true ↔ reached.contains path = true) ∧
        ∀ chain, reached.chainTo path = some chain →
          reached.graph.Leads reached.entries path chain := by
  intro below
  have apart := values_apart resolver tree sourceRoot entries reached built
  obtain ⟨walk, done, rfl, -, drawn⟩ := build_drawn resolver tree sourceRoot entries reached built
  have proper := drawn.proper
  have nodes := drawn.node_iff done
  have imports := drawn.imports
  simp only [draws_iff] at imports
  refine ⟨⟨fun path => ?_, proper⟩, fun importer target kind => ?_, ⟨?_, ?_, ?_⟩, fun path => ⟨?_, ?_⟩⟩
  · rw [← ImportGraph.find_isSome]
    exact nodes path
  · rw [imports]
    simp only [exists_and_left, below]
  · intro importer file reason found failed target kind drawn'
    obtain ⟨file', found', edges, read, -⟩ := (imports importer target kind).mp drawn'
    rw [found] at found'
    rw [← Option.some.inj found'] at read
    simp [SourceFile.failure?, read] at failed
  · exact apart
  · intro context same
    have reported := parse_forall₂ context
    unfold CheckContext.files at reported
    rwa [same] at reported
  · unfold chainTo
    rw [shortestChain_isSome proper]
    constructor
    · rintro ⟨goal, -, found, -⟩
      exact (nodes path).mp (by rw [found]; rfl)
    · intro known
      obtain ⟨goal, found⟩ := Option.isSome_iff_exists.mp ((nodes path).mpr known)
      obtain ⟨earlier, route⟩ := drawn.routes path goal found
      exact ⟨goal, earlier, found, route⟩
  · exact fun chain => shortestChain_leads proper

theorem exists_of_isOk {Reason Value : Type} (result : Except Reason Value)
    (succeeds : result.isOk = true) : ∃ value, result = .ok value := by
  cases result with
  | error reason => contradiction
  | ok value => exact ⟨value, rfl⟩

theorem ok_of_toOption {Reason Value : Type} {result : Except Reason Value} {value : Value}
    (succeeds : result.toOption = some value) : result = .ok value := by
  cases result with
  | error reason => contradiction
  | ok other => exact congrArg Except.ok (Option.some.inj succeeds)

def brokenTree : FileTree :=
  ((FileTree.add {} [['s', 'r', 'c'], ['a', '.', 't', 's']]
    (.file (Text.encode "import './b'".toList))).add [['s', 'r', 'c'], ['b', '.', 't', 's']]
    (.file (Text.encode "import (".toList)))

theorem build_graph_broken : ∃ reached,
    build plainResolver brokenTree "src" ["src/a.ts"] = .ok reached ∧
      reached.graph.Imports ⟨"/src/a.ts"⟩ ⟨"/src/b.ts"⟩ .sideEffect ∧
      (∀ target kind, ¬ reached.graph.Imports ⟨"/src/b.ts"⟩ target kind) ∧
      ∃ chain, reached.chainTo ⟨"/src/b.ts"⟩ = some chain := by
  obtain ⟨reached, built⟩ := exists_of_isOk (build plainResolver brokenTree "src" ["src/a.ts"])
    (by decide +kernel)
  have first : ((build plainResolver brokenTree "src" ["src/a.ts"]).toOption.bind fun reached =>
      (reached.files.find? ⟨"/src/a.ts"⟩).bind fun file => file.knownImports.find?
        (leadsTo (plainResolver.root.configured "src") ⟨"/src/b.ts"⟩)).map ImportEdge.kind =
      some .sideEffect := by decide +kernel
  have second : ((build plainResolver brokenTree "src" ["src/a.ts"]).toOption.bind fun reached =>
      (reached.files.find? ⟨"/src/b.ts"⟩).bind SourceFile.failure?) =
      some "Parse error: syntax error near line 1 (typescript)" := by decide +kernel
  rw [built, Except.toOption, Option.bind_some] at first second
  obtain ⟨edge, hit, kind⟩ := Option.map_eq_some_iff.mp first
  obtain ⟨file, found, hit⟩ := Option.bind_eq_some_iff.mp hit
  obtain ⟨broken, found', failed⟩ := Option.bind_eq_some_iff.mp second
  obtain ⟨edges, read, drawn⟩ := (draws_iff _ file _ .sideEffect).mp ⟨edge, hit, kind⟩
  obtain ⟨-, imports, ⟨silent, -, -⟩, chains⟩ :=
    build_graph plainResolver brokenTree "src" ["src/a.ts"] reached built
  refine ⟨reached, built, (imports _ _ _).mpr ⟨file, edges, ?_⟩, silent _ broken _ found' failed,
    Option.isSome_iff_exists.mp ((chains _).1.mpr ?_)⟩
  · obtain ⟨edge, hit, kind⟩ := drawn
    exact ⟨edge, found, read, hit, kind⟩
  · unfold contains SortedMap.contains
    rw [found']
    rfl

example : ((build plainResolver brokenTree "src" ["src/a.ts"]).toOption.bind fun reached =>
    reached.chainTo ⟨"/src//b.ts"⟩) = some [⟨"/src/a.ts"⟩, ⟨"/src/b.ts"⟩] := by decide +kernel

end ReachableSet

end UiContract
