import Mathlib.Data.List.Basic
import UiContract.Graph.ImportGraph
import UiContract.Proofs.Paths

/-!
The graph of followed imports as a relation between files. A file has one node however its path is
spelled, and the numbers of nodes never change. Of the imports of one file by another the first one
decides the kind of their edge.
-/
namespace UiContract.ImportGraph

/-- The numbers of an edge belong to nodes, no file has two nodes, and no two edges lead from one
node to the same other one. -/
structure Proper (graph : ImportGraph) : Prop where
  apart : graph.nodes.Pairwise fun first second => first.components ≠ second.components
  ends : ∀ edge ∈ graph.edges,
    edge.importer < graph.nodes.length ∧ edge.imported < graph.nodes.length
  once : graph.edges.Pairwise fun first second =>
    ¬ (first.importer = second.importer ∧ first.imported = second.imported)

def Imports (graph : ImportGraph) (importer target : Path) (kind : ImportKind) : Prop :=
  ∃ edge ∈ graph.edges, graph.find? importer = some edge.importer ∧
    graph.find? target = some edge.imported ∧ edge.kind = kind

structure Grows (graph larger : ImportGraph) : Prop where
  finds : ∀ path number, graph.find? path = some number → larger.find? path = some number
  edges : ∀ importer imported, graph.hasEdge importer imported = true →
    larger.hasEdge importer imported = true

theorem proper_empty : ({} : ImportGraph).Proper := ⟨.nil, nofun, .nil⟩

theorem Grows.refl (graph : ImportGraph) : graph.Grows graph := ⟨fun _ _ => id, fun _ _ => id⟩

theorem Grows.trans {first second third : ImportGraph} (grows : first.Grows second)
    (grows' : second.Grows third) : first.Grows third :=
  ⟨fun path number found => grows'.finds path number (grows.finds path number found),
    fun importer imported edge => grows'.edges importer imported
      (grows.edges importer imported edge)⟩

variable (graph : ImportGraph) (path other : Path)

theorem find_congr {first second : Path} (same : first.components = second.components) :
    graph.find? first = graph.find? second := by
  unfold find?
  rw [same]

theorem find_eq_some {number : Nat} (found : graph.find? path = some number) :
    ∃ node, graph.nodes[number]? = some node ∧ node.components = path.components := by
  obtain ⟨inside, same, -⟩ := List.findIdx?_eq_some_iff_getElem.mp found
  exact ⟨graph.nodes[number], List.getElem?_eq_getElem inside, by simpa using same⟩

theorem find_lt {number : Nat} (found : graph.find? path = some number) :
    number < graph.nodes.length := by
  obtain ⟨node, held, -⟩ := graph.find_eq_some path found
  exact (List.getElem?_eq_some_iff.mp held).1

theorem find_injective {number : Nat} (found : graph.find? path = some number)
    (found' : graph.find? other = some number) : path.components = other.components := by
  obtain ⟨node, held, same⟩ := graph.find_eq_some path found
  obtain ⟨node', held', same'⟩ := graph.find_eq_some other found'
  rw [held] at held'
  rw [← same, ← same', Option.some.inj held']

theorem find_isSome : (graph.find? path).isSome = true ↔
    ∃ node ∈ graph.nodes, node.components = path.components := by
  simp [find?, List.findIdx?_isSome]

theorem find_getElem (proper : graph.Proper) {number : Nat} {node : Path}
    (held : graph.nodes[number]? = some node) : graph.find? node = some number := by
  obtain ⟨inside, rfl⟩ := List.getElem?_eq_some_iff.mp held
  refine List.findIdx?_eq_some_iff_getElem.mpr ⟨inside, by simp, ?_⟩
  intro earlier before same
  have distinct := List.pairwise_iff_getElem.mp proper.apart earlier number
    (before.trans inside) inside before
  exact distinct (by simpa using same)

theorem find_addFile : (graph.addFile path).1.find? other =
    if other.components = path.components then some (graph.addFile path).2
    else graph.find? other := by
  unfold addFile
  cases known : graph.find? path with
  | some number =>
      dsimp only
      split
      · rename_i same
        rw [← known, graph.find_congr same]
      · rfl
  | none =>
      dsimp only
      unfold find? at known ⊢
      rw [List.findIdx?_append]
      split
      · rename_i same
        rw [same, known]
        simp
      · rename_i distinct
        have missed : [path].findIdx? (fun node => node.components == other.components) = none := by
          simpa using Ne.symm distinct
        rw [missed]
        cases graph.nodes.findIdx? fun node => node.components == other.components <;> rfl

theorem find_addFile_self : (graph.addFile path).1.find? path = some (graph.addFile path).2 := by
  rw [find_addFile, if_pos rfl]

theorem find_addFile_of_some {number : Nat} (found : graph.find? other = some number) :
    (graph.addFile path).1.find? other = some number := by
  rw [find_addFile]
  split
  · rename_i same
    unfold addFile
    rw [← graph.find_congr same, found]
  · exact found

theorem addFile_edges : (graph.addFile path).1.edges = graph.edges := by
  unfold addFile
  split <;> rfl

theorem addFile_nodes : (graph.addFile path).1.nodes = graph.nodes ∨
    (graph.addFile path).1.nodes = graph.nodes ++ [path] ∧ graph.find? path = none := by
  unfold addFile
  split
  · exact .inl rfl
  · rename_i fresh
    exact .inr ⟨rfl, fresh⟩

theorem mem_addFile_nodes {node : Path} (member : node ∈ (graph.addFile path).1.nodes) :
    node ∈ graph.nodes ∨ node = path := by
  rcases graph.addFile_nodes path with same | ⟨more, -⟩
  · exact .inl (same ▸ member)
  · rw [more] at member
    exact (List.mem_append.mp member).imp_right List.mem_singleton.mp

theorem proper_addFile (proper : graph.Proper) : (graph.addFile path).1.Proper := by
  rcases graph.addFile_nodes path with same | ⟨longer, fresh⟩
  · exact ⟨same ▸ proper.apart, by rw [addFile_edges, same]; exact proper.ends,
      by rw [addFile_edges]; exact proper.once⟩
  · refine ⟨?_, ?_, by rw [addFile_edges]; exact proper.once⟩
    · rw [longer]
      refine List.pairwise_append.mpr ⟨proper.apart, List.pairwise_singleton _ _, ?_⟩
      intro node member last single same
      rw [List.mem_singleton.mp single] at same
      have known := (graph.find_isSome path).mpr ⟨node, member, same⟩
      rw [fresh] at known
      contradiction
    · intro edge member
      rw [addFile_edges] at member
      have inside := proper.ends edge member
      rw [longer, List.length_append]
      omega

theorem imports_congr {first second target goal : Path} (kind : ImportKind)
    (same : first.components = second.components) (same' : target.components = goal.components) :
    graph.Imports first target kind ↔ graph.Imports second goal kind := by
  unfold Imports
  rw [graph.find_congr same, graph.find_congr same']

theorem imports_addFile (proper : graph.Proper) (importer target : Path) (kind : ImportKind) :
    (graph.addFile path).1.Imports importer target kind ↔ graph.Imports importer target kind := by
  have back : ∀ file number, number < graph.nodes.length →
      ((graph.addFile path).1.find? file = some number ↔ graph.find? file = some number) := by
    intro file number inside
    constructor
    · intro found
      rw [find_addFile] at found
      split at found
      · rename_i same
        rw [graph.find_congr same]
        unfold addFile at found
        split at found
        · rename_i known
          rw [known]
          exact found
        · rw [← Option.some.inj found] at inside
          exact absurd inside (Nat.lt_irrefl _)
      · exact found
    · exact graph.find_addFile_of_some path file
  unfold Imports
  rw [addFile_edges]
  refine exists_congr fun edge => and_congr_right fun member => ?_
  obtain ⟨inside, inside'⟩ := proper.ends edge member
  rw [back importer _ inside, back target _ inside']

theorem hasEdge_iff (importer imported : Nat) : graph.hasEdge importer imported = true ↔
    ∃ edge ∈ graph.edges, edge.importer = importer ∧ edge.imported = imported := by
  simp [hasEdge]

theorem find_addEdge (importer : Nat) (kind : ImportKind) :
    (graph.addEdge importer path kind).find? other = (graph.addFile path).1.find? other := by
  unfold addEdge
  dsimp only
  split <;> rfl

theorem addEdge_nodes (importer : Nat) (kind : ImportKind) :
    (graph.addEdge importer path kind).nodes = (graph.addFile path).1.nodes := by
  unfold addEdge
  dsimp only
  split <;> rfl

theorem addFile_grows : graph.Grows (graph.addFile path).1 where
  finds other _ found := graph.find_addFile_of_some path other found
  edges importer imported edge := by
    unfold hasEdge at edge ⊢
    rwa [addFile_edges]

theorem addEdge_grows (importer : Nat) (kind : ImportKind) :
    graph.Grows (graph.addEdge importer path kind) := by
  refine (graph.addFile_grows path).trans ⟨fun other _ found => ?_, fun first second edge => ?_⟩
  · rwa [find_addEdge]
  · unfold addEdge
    dsimp only
    split
    · exact edge
    · rw [hasEdge_iff] at edge ⊢
      obtain ⟨held, member, same⟩ := edge
      exact ⟨held, List.mem_append_left _ member, same⟩

theorem find_addFile_isSome : ((graph.addFile path).1.find? other).isSome = true ↔
    other.components = path.components ∨ (graph.find? other).isSome = true := by
  rw [find_addFile]
  split
  · rename_i same
    simp [same]
  · rename_i apart
    simp [apart]

theorem length_le_addFile : graph.nodes.length ≤ (graph.addFile path).1.nodes.length := by
  rcases graph.addFile_nodes path with same | ⟨longer, -⟩
  · rw [same]
  · rw [longer, List.length_append]
    exact Nat.le_add_right _ _

theorem proper_addEdge (proper : graph.Proper) {importer : Nat} (kind : ImportKind)
    (known : importer < (graph.addFile path).1.nodes.length) :
    (graph.addEdge importer path kind).Proper := by
  have proper' := graph.proper_addFile path proper
  have imported := (graph.addFile path).1.find_lt path (graph.find_addFile_self path)
  unfold addEdge
  dsimp only
  split
  · exact proper'
  · rename_i fresh
    refine ⟨proper'.apart, ?_, ?_⟩
    · intro edge member
      rcases List.mem_append.mp member with old | single
      · exact proper'.ends edge old
      · rw [List.mem_singleton.mp single]
        exact ⟨known, imported⟩
    · refine List.pairwise_append.mpr ⟨proper'.once, List.pairwise_singleton _ _, ?_⟩
      intro edge member last single ⟨same, same'⟩
      rw [List.mem_singleton.mp single] at same same'
      exact fresh ((hasEdge_iff _ _ _).mpr ⟨edge, member, same, same'⟩)

/-- Two files with known nodes have an edge exactly where their nodes have one. -/
theorem imports_iff_hasEdge {importer target : Path} {number number' : Nat}
    (found : graph.find? importer = some number) (found' : graph.find? target = some number') :
    (∃ kind, graph.Imports importer target kind) ↔ graph.hasEdge number number' = true := by
  rw [hasEdge_iff]
  constructor
  · rintro ⟨kind, edge, member, begins, ends, -⟩
    rw [found] at begins
    rw [found'] at ends
    exact ⟨edge, member, (Option.some.inj begins).symm, (Option.some.inj ends).symm⟩
  · rintro ⟨edge, member, rfl, rfl⟩
    exact ⟨edge.kind, edge, member, found, found', rfl⟩

theorem imports_append (edge : GraphEdge) (importer target : Path) (kind : ImportKind) :
    { graph with edges := graph.edges ++ [edge] : ImportGraph }.Imports importer target kind ↔
      graph.Imports importer target kind ∨ graph.find? importer = some edge.importer ∧
        graph.find? target = some edge.imported ∧ edge.kind = kind := by
  have finds : ∀ file,
      { graph with edges := graph.edges ++ [edge] : ImportGraph }.find? file = graph.find? file :=
    fun _ => rfl
  unfold Imports
  simp only [finds, List.mem_append, List.mem_singleton, or_and_right, exists_or, exists_eq_left]

/-- An import of one file by another adds their edge, unless there is one already. -/
theorem imports_addEdge (proper : graph.Proper) {number : Nat} {importer : Path}
    (known : graph.find? importer = some number) (kind : ImportKind) (first target : Path)
    (seen : ImportKind) :
    (graph.addEdge number path kind).Imports first target seen ↔
      graph.Imports first target seen ∨
        (first.components = importer.components ∧ target.components = path.components ∧
          kind = seen ∧ ∀ earlier, ¬ graph.Imports first target earlier) := by
  have old := graph.imports_addFile path proper first target
  have begins := graph.find_addFile_of_some path importer known
  have ends := graph.find_addFile_self path
  have occupied := (graph.addFile path).1.imports_iff_hasEdge begins ends
  have moved : first.components = importer.components → target.components = path.components →
      ∀ earlier, graph.Imports first target earlier ↔
        (graph.addFile path).1.Imports importer path earlier := by
    intro same same' earlier
    rw [← old]
    exact imports_congr _ earlier same same'
  unfold addEdge
  dsimp only
  split
  · rename_i held
    rw [old, iff_self_or]
    rintro ⟨same, same', -, none⟩
    obtain ⟨earlier, imports⟩ := occupied.mpr held
    exact absurd ((moved same same' earlier).mpr imports) (none earlier)
  · rename_i free
    rw [imports_append, old]
    refine or_congr_right ⟨?_, ?_⟩
    · rintro ⟨found, found', same⟩
      have importers := (graph.addFile path).1.find_injective _ _ found begins
      have targets := (graph.addFile path).1.find_injective _ _ found' ends
      exact ⟨importers, targets, same, fun earlier imports =>
        free (occupied.mp ⟨earlier, (moved importers targets earlier).mp imports⟩)⟩
    · rintro ⟨importers, targets, same, -⟩
      rw [find_congr _ importers, find_congr _ targets]
      exact ⟨begins, ends, same⟩

def link (edge : GraphEdge) : Option (List Component) × Option (List Component) :=
  (graph.nodes[edge.importer]?.map Path.components, graph.nodes[edge.imported]?.map Path.components)

theorem links_nodup (proper : graph.Proper) : (graph.edges.map graph.link).Nodup := by
  have told : ∀ number other, number < graph.nodes.length →
      graph.nodes[number]?.map Path.components = graph.nodes[other]?.map Path.components →
      number = other := by
    intro number other inside same
    rw [List.getElem?_eq_getElem inside, Option.map_some] at same
    obtain ⟨node, held, equal⟩ := Option.map_eq_some_iff.mp same.symm
    have found := graph.find_getElem proper (List.getElem?_eq_getElem inside)
    rw [← graph.find_congr equal, graph.find_getElem proper held] at found
    exact (Option.some.inj found).symm
  refine List.pairwise_map.mpr (proper.once.imp_of_mem fun {first second} member _ apart same => ?_)
  obtain ⟨inside, inside'⟩ := proper.ends first member
  obtain ⟨importers, targets⟩ := Prod.mk.inj same
  exact apart ⟨told _ _ inside importers, told _ _ inside' targets⟩

theorem mem_links (proper : graph.Proper) (ends : Option (List Component) × Option (List Component)) :
    ends ∈ graph.edges.map graph.link ↔ ∃ importer target kind,
      graph.Imports importer target kind ∧ ends = (some importer.components, some target.components) := by
  rw [List.mem_map]
  constructor
  · rintro ⟨edge, member, rfl⟩
    obtain ⟨inside, inside'⟩ := proper.ends edge member
    have held := List.getElem?_eq_getElem inside
    have held' := List.getElem?_eq_getElem inside'
    exact ⟨_, _, edge.kind, ⟨edge, member, graph.find_getElem proper held,
      graph.find_getElem proper held', rfl⟩, by rw [link, held, held']; rfl⟩
  · rintro ⟨importer, target, kind, ⟨edge, member, found, found', -⟩, rfl⟩
    obtain ⟨node, held, same⟩ := graph.find_eq_some importer found
    obtain ⟨node', held', same'⟩ := graph.find_eq_some target found'
    exact ⟨edge, member, by rw [link, held, held', Option.map_some, Option.map_some, same, same']⟩

theorem edges_length_congr {other : ImportGraph} (proper : graph.Proper) (proper' : other.Proper)
    (same : ∀ importer target kind,
      graph.Imports importer target kind ↔ other.Imports importer target kind) :
    graph.edges.length = other.edges.length := by
  have links : (graph.edges.map graph.link).Perm (other.edges.map other.link) := by
    refine (List.perm_ext_iff_of_nodup (graph.links_nodup proper) (other.links_nodup proper')).mpr ?_
    intro ends
    rw [mem_links graph proper, mem_links other proper']
    simp only [same]
  simpa using links.length_eq

end UiContract.ImportGraph
