import UiContract.Proofs.ImportChains
import UiContract.Proofs.SortedMap

/-!
What a graph keeps of the additions, by `add_file` and `add_edge`, that made it. A file keeps the number and
the spelling that it got when it was named first, an edge keeps the kind and the place of the first addition
that named both of its ends, and no later addition changes any of this. A graph that looks its files up in a
table of numbers, kept beside the nodes, is the same graph, and its table is the inverse of its nodes.
-/
namespace UiContract.ImportGraph

/-- A graph with a table of the numbers of its files. -/
structure Tabled where
  graph : ImportGraph := {}
  table : SortedMap Path Nat := {}

namespace Tabled

def addFile (tabled : Tabled) (path : Path) : Tabled × Nat :=
  match tabled.table.find? path with
  | some number => (tabled, number)
  | none =>
      let number := tabled.graph.nodes.length
      ({ graph := { tabled.graph with nodes := tabled.graph.nodes ++ [path] },
         table := tabled.table.insert path number }, number)

def addEdge (tabled : Tabled) (importer : Nat) (path : Path) (kind : ImportKind) : Tabled :=
  let (tabled, imported) := tabled.addFile path
  if tabled.graph.hasEdge importer imported then tabled
  else { tabled with graph :=
    { tabled.graph with edges := tabled.graph.edges ++ [⟨importer, imported, kind⟩] } }

def add? (tabled : Tabled) : Addition → Option Tabled
  | .file path => some (tabled.addFile path).1
  | .edge importer path kind =>
      if importer < (tabled.addFile path).1.graph.nodes.length then
        some (tabled.addEdge importer path kind)
      else none

def ofAdditions? (additions : List Addition) : Option Tabled :=
  additions.foldlM add? {}

def Agrees (tabled : Tabled) : Prop :=
  ∀ path, tabled.table.find? path = tabled.graph.find? path

section Tables

variable {tabled : Tabled} (agrees : tabled.Agrees) (path : Path)
include agrees

theorem addFile_graph : (tabled.addFile path).1.graph = (tabled.graph.addFile path).1 ∧
    (tabled.addFile path).2 = (tabled.graph.addFile path).2 := by
  unfold addFile ImportGraph.addFile
  rw [agrees path]
  cases tabled.graph.find? path <;> exact ⟨rfl, rfl⟩

/-- A file that is added has the same number in the table and among the nodes. -/
theorem addFile_agrees : (tabled.addFile path).1.Agrees := by
  intro other
  rw [(addFile_graph agrees path).1, find_addFile]
  unfold addFile ImportGraph.addFile
  rw [agrees path]
  cases known : tabled.graph.find? path with
  | some number =>
      show tabled.table.find? other = _
      rw [agrees other]
      split
      · rename_i same
        rw [tabled.graph.find_congr same, known]
      · rfl
  | none =>
      show (tabled.table.insert path tabled.graph.nodes.length).find? other = _
      rw [SortedMap.find_insert, agrees other]
      simp only [Path.compare_eq_iff]

theorem addEdge_graph (importer : Nat) (kind : ImportKind) :
    (tabled.addEdge importer path kind).graph = tabled.graph.addEdge importer path kind ∧
      (tabled.addEdge importer path kind).Agrees := by
  obtain ⟨graph, number⟩ := addFile_graph agrees path
  have kept := addFile_agrees agrees path
  unfold addEdge ImportGraph.addEdge
  dsimp only
  rw [graph, number]
  split
  · exact ⟨graph, kept⟩
  · exact ⟨rfl, graph ▸ kept⟩

theorem add_graph (addition : Addition) {larger : ImportGraph}
    (added : tabled.graph.add? addition = some larger) :
    ∃ next, tabled.add? addition = some next ∧ next.graph = larger ∧ next.Agrees := by
  cases addition with
  | file path =>
      obtain rfl := Option.some.inj added
      exact ⟨_, rfl, (addFile_graph agrees path).1, addFile_agrees agrees path⟩
  | edge importer path kind =>
      obtain ⟨known, same⟩ := Option.ite_none_right_eq_some.mp added
      obtain rfl := Option.some.inj same
      obtain ⟨graph, kept⟩ := addEdge_graph agrees path importer kind
      refine ⟨_, if_pos ?_, graph, kept⟩
      rwa [(addFile_graph agrees path).1]

theorem foldlM_graph (additions : List Addition) {larger : ImportGraph}
    (added : additions.foldlM ImportGraph.add? tabled.graph = some larger) :
    ∃ last, additions.foldlM add? tabled = some last ∧ last.graph = larger ∧ last.Agrees := by
  induction additions generalizing tabled with
  | nil => exact ⟨tabled, rfl, Option.some.inj added, agrees⟩
  | cons addition rest ih =>
      obtain ⟨graph, first, later⟩ := Option.bind_eq_some_iff.mp added
      obtain ⟨next, first', rfl, kept⟩ := add_graph agrees addition first
      obtain ⟨last, later', same, kept'⟩ := ih kept later
      exact ⟨last, Option.bind_eq_some_iff.mpr ⟨next, first', later'⟩, same, kept'⟩

end Tables

/-- Additions that give a graph give the same graph beside a table that agrees with it. -/
theorem ofAdditions_agrees {additions : List Addition} {graph : ImportGraph}
    (built : ImportGraph.ofAdditions? additions = some graph) :
    ∃ table, ofAdditions? additions = some ⟨graph, table⟩ ∧
      ∀ path, table.find? path = graph.find? path := by
  have empty : Agrees {} := fun _ => rfl
  obtain ⟨⟨_, table⟩, built', rfl, agrees⟩ := foldlM_graph empty additions built
  exact ⟨table, built', agrees⟩

end Tabled

section History

variable (graph : ImportGraph) (additions : List Addition)

def firstSpelling? (path : Path) : Option Path :=
  (additions.map Addition.path).find? path.same

def importKind? (importer imported : Nat) : Addition → Option ImportKind
  | .file _ => none
  | .edge number path kind =>
      if number = importer ∧ graph.find? path = some imported then some kind else none

def mentions (importer imported : Nat) : List (Option ImportKind) :=
  additions.map (graph.importKind? importer imported)

def firstKind? (importer imported : Nat) : Option ImportKind :=
  (mentions graph additions importer imported).findSome? id

def firstPlace (edge : GraphEdge) : Nat :=
  (mentions graph additions edge.importer edge.imported).findIdx Option.isSome

structure Recalls (graph : ImportGraph) (additions : List Addition) : Prop where
  proper : graph.Proper
  /-- A number is found for a path where its node is the same file. -/
  numbers : ∀ path number, graph.find? path = some number ↔
    ∃ node, graph.nodes[number]? = some node ∧ node.components = path.components
  /-- The files are those that were added. -/
  files : ∀ path, (graph.find? path).isSome = true ↔ Added additions path
  spellings : ∀ node ∈ graph.nodes, firstSpelling? additions node = some node
  kinds : ∀ importer imported kind,
    ⟨importer, imported, kind⟩ ∈ graph.edges ↔
      firstKind? graph additions importer imported = some kind
  order : graph.edges.Pairwise fun earlier later =>
    firstPlace graph additions earlier < firstPlace graph additions later

end History

section Additions

variable {graph larger : ImportGraph} {additions : List Addition} {addition : Addition}

theorem find_numbers (proper : graph.Proper) (path : Path) (number : Nat) :
    graph.find? path = some number ↔
      ∃ node, graph.nodes[number]? = some node ∧ node.components = path.components := by
  refine ⟨graph.find_eq_some path, ?_⟩
  rintro ⟨node, held, same⟩
  rw [← graph.find_congr same, graph.find_getElem proper held]

theorem add_files (added : graph.add? addition = some larger) :
    larger.nodes = (graph.addFile addition.path).1.nodes ∧
      ∀ path, larger.find? path = (graph.addFile addition.path).1.find? path := by
  cases addition with
  | file path =>
      obtain rfl := Option.some.inj added
      exact ⟨rfl, fun _ => rfl⟩
  | edge importer path kind =>
      obtain ⟨-, same⟩ := Option.ite_none_right_eq_some.mp added
      obtain rfl := Option.some.inj same
      exact ⟨graph.addEdge_nodes path importer kind,
        fun other => graph.find_addEdge path other importer kind⟩

theorem add_grows (added : graph.add? addition = some larger) : graph.Grows larger := by
  cases addition with
  | file path =>
      obtain rfl := Option.some.inj added
      exact graph.addFile_grows path
  | edge importer path kind =>
      obtain ⟨-, same⟩ := Option.ite_none_right_eq_some.mp added
      obtain rfl := Option.some.inj same
      exact graph.addEdge_grows path importer kind

theorem add_extends (added : graph.add? addition = some larger) :
    graph.nodes <+: larger.nodes ∧ graph.edges <+: larger.edges := by
  constructor
  · rw [(add_files added).1]
    rcases graph.addFile_nodes addition.path with same | ⟨longer, -⟩
    · exact same.symm ▸ List.prefix_rfl
    · exact longer.symm ▸ List.prefix_append _ _
  · cases addition with
    | file path =>
        obtain rfl := Option.some.inj added
        exact (addFile_edges ..).symm ▸ List.prefix_rfl
    | edge importer path kind =>
        obtain ⟨-, same⟩ := Option.ite_none_right_eq_some.mp added
        obtain rfl := Option.some.inj same
        unfold addEdge
        dsimp only
        split
        · exact (addFile_edges ..).symm ▸ List.prefix_rfl
        · exact (addFile_edges ..).symm ▸ List.prefix_append _ _

theorem foldlM_extends (additions : List Addition)
    (added : additions.foldlM add? graph = some larger) :
    graph.nodes <+: larger.nodes ∧ graph.edges <+: larger.edges ∧ graph.Grows larger := by
  induction additions generalizing graph with
  | nil =>
      obtain rfl := Option.some.inj added
      exact ⟨List.prefix_rfl, List.prefix_rfl, .refl graph⟩
  | cons addition rest ih =>
      obtain ⟨next, first, later⟩ := Option.bind_eq_some_iff.mp added
      obtain ⟨nodes, edges⟩ := add_extends first
      obtain ⟨nodes', edges', grows⟩ := ih later
      exact ⟨nodes.trans nodes', edges.trans edges', (add_grows first).trans grows⟩

theorem importKind_congr (grows : graph.Grows larger)
    (known : (graph.find? addition.path).isSome = true) (importer imported : Nat) :
    larger.importKind? importer imported addition = graph.importKind? importer imported addition := by
  cases addition with
  | file path => rfl
  | edge number path kind =>
      obtain ⟨node, found⟩ : ∃ node, graph.find? path = some node :=
        Option.isSome_iff_exists.mp known
      dsimp only [importKind?]
      rw [found, grows.finds path node found]

theorem Recalls.mentions_concat (recalls : graph.Recalls additions) (grows : graph.Grows larger)
    (addition : Addition) (importer imported : Nat) :
    mentions larger (additions ++ [addition]) importer imported =
      mentions graph additions importer imported ++
        [larger.importKind? importer imported addition] := by
  unfold mentions
  rw [List.map_append, List.map_singleton]
  congr 1
  refine List.map_congr_left fun old member => importKind_congr grows ?_ importer imported
  exact (recalls.files old.path).mpr ⟨old, member, rfl⟩

theorem Recalls.firstKind_concat (recalls : graph.Recalls additions) (grows : graph.Grows larger)
    (addition : Addition) (importer imported : Nat) :
    firstKind? larger (additions ++ [addition]) importer imported =
      (firstKind? graph additions importer imported).or
        (larger.importKind? importer imported addition) := by
  unfold firstKind?
  rw [recalls.mentions_concat grows, List.findSome?_append, List.findSome?_singleton, id]

theorem Recalls.firstPlace_old (recalls : graph.Recalls additions) (grows : graph.Grows larger)
    (addition : Addition) {edge : GraphEdge} (member : edge ∈ graph.edges) :
    firstPlace larger (additions ++ [addition]) edge = firstPlace graph additions edge ∧
      firstPlace graph additions edge < additions.length := by
  have drawn := (recalls.kinds edge.importer edge.imported edge.kind).mp member
  obtain ⟨named, listed, same⟩ := List.exists_of_findSome?_eq_some drawn
  have before : (mentions graph additions edge.importer edge.imported).findIdx Option.isSome <
      (mentions graph additions edge.importer edge.imported).length :=
    List.findIdx_lt_length_of_exists ⟨named, listed, by rw [show named = some edge.kind from same]; rfl⟩
  unfold firstPlace
  rw [recalls.mentions_concat grows, List.findIdx_append, if_pos before]
  refine ⟨rfl, ?_⟩
  rwa [mentions, List.length_map, ← mentions] at before

theorem Recalls.spellings_add (recalls : graph.Recalls additions)
    (added : graph.add? addition = some larger) :
    ∀ node ∈ larger.nodes, firstSpelling? (additions ++ [addition]) node = some node := by
  intro node member
  unfold firstSpelling?
  rw [List.map_append, List.find?_append]
  rw [(add_files added).1] at member
  rcases graph.addFile_nodes addition.path with same | ⟨longer, fresh⟩
  · rw [same] at member
    rw [show (additions.map Addition.path).find? node.same = some node from
      recalls.spellings node member]
    rfl
  · rw [longer] at member
    rcases List.mem_append.mp member with old | new
    · rw [show (additions.map Addition.path).find? node.same = some node from
        recalls.spellings node old]
      rfl
    · -- A file without a node was not named before.
      obtain rfl := List.mem_singleton.mp new
      have unnamed : (additions.map Addition.path).find? addition.path.same = none := by
        refine List.find?_eq_none.mpr fun path listed same => ?_
        obtain ⟨old, member, rfl⟩ := List.mem_map.mp listed
        have known := (recalls.files addition.path).mpr ⟨old, member, (Path.same_iff _ _).mp same⟩
        rw [fresh] at known
        contradiction
      rw [unnamed]
      simp [(Path.same_iff addition.path addition.path).mpr rfl]

/-- Where an addition draws an edge: its ends and its kind, unless the ends have an edge. -/
theorem add_edges (added : graph.add? addition = some larger) :
    (larger.edges = graph.edges ∧ ∀ importer imported kind,
      larger.importKind? importer imported addition = some kind →
        larger.hasEdge importer imported = true) ∨
    ∃ edge, larger.edges = graph.edges ++ [edge] ∧
      larger.importKind? edge.importer edge.imported addition = some edge.kind ∧
      (∀ importer imported kind, larger.importKind? importer imported addition = some kind →
        ⟨importer, imported, kind⟩ = edge) ∧
      graph.hasEdge edge.importer edge.imported = false := by
  cases addition with
  | file path =>
      obtain rfl := Option.some.inj added
      exact .inl ⟨graph.addFile_edges path, nofun⟩
  | edge importer path kind =>
      obtain ⟨-, same⟩ := Option.ite_none_right_eq_some.mp added
      obtain rfl := Option.some.inj same
      have found : (graph.addEdge importer path kind).find? path = some (graph.addFile path).2 := by
        rw [find_addEdge, find_addFile_self]
      have names : ∀ first second other,
          (graph.addEdge importer path kind).importKind? first second (.edge importer path kind) =
            some other → importer = first ∧ (graph.addFile path).2 = second ∧ kind = other := by
        intro first second other named
        obtain ⟨⟨begins, ends⟩, kinds⟩ := Option.ite_none_right_eq_some.mp named
        rw [found] at ends
        exact ⟨begins, Option.some.inj ends, Option.some.inj kinds⟩
      have old : ∀ first second, (graph.addFile path).1.hasEdge first second =
          graph.hasEdge first second := by
        intro first second
        unfold hasEdge
        rw [addFile_edges]
      cases drawn : graph.hasEdge importer (graph.addFile path).2 with
      | true =>
          have kept : graph.addEdge importer path kind = (graph.addFile path).1 :=
            if_pos ((old _ _).trans drawn)
          refine .inl ⟨by rw [kept, addFile_edges], fun first second other named => ?_⟩
          obtain ⟨rfl, rfl, -⟩ := names first second other named
          rw [kept, old, drawn]
      | false =>
          have more : (graph.addEdge importer path kind).edges =
              (graph.addFile path).1.edges ++ [⟨importer, (graph.addFile path).2, kind⟩] := by
            unfold addEdge
            dsimp only
            rw [if_neg (by rw [old, drawn]; exact Bool.false_ne_true)]
          refine .inr ⟨⟨importer, (graph.addFile path).2, kind⟩, by rw [more, addFile_edges], ?_,
            fun first second other named => ?_, drawn⟩
          · exact if_pos ⟨rfl, found⟩
          · obtain ⟨rfl, rfl, rfl⟩ := names first second other named
            rfl

/-- Of two nodes with an edge the additions name it, and the first one decides its kind. -/
theorem Recalls.firstKind_isSome (recalls : graph.Recalls additions) (importer imported : Nat) :
    (firstKind? graph additions importer imported).isSome = true ↔
      graph.hasEdge importer imported = true := by
  rw [hasEdge_iff, Option.isSome_iff_exists]
  constructor
  · rintro ⟨kind, named⟩
    exact ⟨_, (recalls.kinds importer imported kind).mpr named, rfl, rfl⟩
  · rintro ⟨edge, member, rfl, rfl⟩
    exact ⟨edge.kind, (recalls.kinds _ _ edge.kind).mp member⟩

theorem Recalls.kinds_add (recalls : graph.Recalls additions)
    (added : graph.add? addition = some larger) (importer imported : Nat) (kind : ImportKind) :
    ⟨importer, imported, kind⟩ ∈ larger.edges ↔
      firstKind? larger (additions ++ [addition]) importer imported = some kind := by
  rw [recalls.firstKind_concat (add_grows added)]
  have before := recalls.firstKind_isSome importer imported
  rcases add_edges added with ⟨same, idle⟩ | ⟨edge, more, drawn, only, fresh⟩
  · rw [same, recalls.kinds]
    cases first : firstKind? graph additions importer imported with
    | some seen => rfl
    | none =>
        -- What was not named before is not named now, since there would be an edge already.
        rw [first] at before
        rw [Option.none_or]
        refine ⟨nofun, fun named => ?_⟩
        have held := idle importer imported kind named
        unfold hasEdge at held before
        rw [same] at held
        exact absurd (before.mpr held) (by simp)
  · rw [more, List.mem_append, List.mem_singleton, recalls.kinds]
    cases first : firstKind? graph additions importer imported with
    | some seen =>
        rw [Option.some_or, or_iff_left_iff_imp]
        rintro rfl
        rw [first] at before
        rw [before.mp rfl] at fresh
        contradiction
    | none =>
        rw [Option.none_or]
        refine ⟨fun drawn' => ?_, fun named => .inr (only importer imported kind named)⟩
        rcases drawn' with named | rfl
        · contradiction
        · exact drawn

theorem Recalls.order_add (recalls : graph.Recalls additions)
    (added : graph.add? addition = some larger) :
    larger.edges.Pairwise fun earlier later =>
      firstPlace larger (additions ++ [addition]) earlier <
        firstPlace larger (additions ++ [addition]) later := by
  have kept : ∀ edge ∈ graph.edges, _ := fun edge member =>
    recalls.firstPlace_old (add_grows added) addition member
  have old : graph.edges.Pairwise fun earlier later =>
      firstPlace larger (additions ++ [addition]) earlier <
        firstPlace larger (additions ++ [addition]) later := by
    refine recalls.order.imp_of_mem fun {earlier later} member member' before => ?_
    rwa [(kept earlier member).1, (kept later member').1]
  rcases add_edges added with ⟨same, -⟩ | ⟨edge, more, -, -, fresh⟩
  · rwa [same]
  · rw [more]
    refine List.pairwise_append.mpr ⟨old, List.pairwise_singleton _ _, fun earlier member later new => ?_⟩
    obtain rfl := List.mem_singleton.mp new
    rw [(kept earlier member).1]
    refine Nat.lt_of_lt_of_le (kept earlier member).2 ?_
    -- No addition before this one names the new edge.
    have unnamed : ∀ said ∈ mentions graph additions later.importer later.imported,
        said.isSome = false := by
      have none : firstKind? graph additions later.importer later.imported = none := by
        rw [← Option.not_isSome_iff_eq_none, recalls.firstKind_isSome, fresh]
        exact Bool.false_ne_true
      intro said listed
      obtain rfl : said = Option.none := List.findSome?_eq_none_iff.mp none said listed
      rfl
    have length : (mentions graph additions later.importer later.imported).length =
        additions.length := List.length_map _
    unfold firstPlace
    rw [recalls.mentions_concat (add_grows added), List.findIdx_append,
      List.findIdx_eq_length.mpr unnamed, if_neg (Nat.lt_irrefl _), length]
    exact Nat.le_add_left _ _

theorem recalls_empty : Recalls {} [] where
  proper := proper_empty
  numbers := find_numbers proper_empty
  files path := by simp [find?, Added]
  spellings := nofun
  kinds _ _ _ := by simp [firstKind?, mentions]
  order := .nil

theorem Recalls.add (recalls : graph.Recalls additions) (added : graph.add? addition = some larger) :
    larger.Recalls (additions ++ [addition]) where
  proper := add_proper recalls.proper addition added
  numbers := find_numbers (add_proper recalls.proper addition added)
  files path := by
    rw [add_finds addition added, recalls.files]
    simp [Added, or_and_right, exists_or, or_comm]
  spellings := recalls.spellings_add added
  kinds := recalls.kinds_add added
  order := recalls.order_add added

theorem ofAdditions_recalls (built : ofAdditions? additions = some graph) :
    graph.Recalls additions := by
  induction additions using List.reverseRecOn generalizing graph with
  | nil =>
      obtain rfl := Option.some.inj built
      exact recalls_empty
  | append_singleton additions addition ih =>
      rw [ofAdditions?, List.foldlM_append] at built
      obtain ⟨before, built', last⟩ := Option.bind_eq_some_iff.mp built
      obtain ⟨after, added, done⟩ := Option.bind_eq_some_iff.mp last
      obtain rfl := Option.some.inj done
      exact (ih built').add added

theorem Recalls.hasEdge_iff_named (recalls : graph.Recalls additions) (importer imported : Nat) :
    graph.hasEdge importer imported = true ↔ ∃ path kind,
      Addition.edge importer path kind ∈ additions ∧ graph.find? path = some imported := by
  rw [← recalls.firstKind_isSome]
  unfold firstKind? mentions
  rw [List.findSome?_map, List.findSome?_isSome_iff]
  constructor
  · rintro ⟨addition, listed, named⟩
    obtain ⟨kind, named⟩ := Option.isSome_iff_exists.mp named
    cases addition with
    | file path => contradiction
    | edge number path kind =>
        obtain ⟨⟨rfl, ends⟩, -⟩ := Option.ite_none_right_eq_some.mp named
        exact ⟨path, kind, listed, ends⟩
  · rintro ⟨path, kind, listed, ends⟩
    exact ⟨_, listed, Option.isSome_iff_exists.mpr ⟨kind, if_pos ⟨rfl, ends⟩⟩⟩

theorem Recalls.node (recalls : graph.Recalls additions) {path : Path}
    (added : Added additions path) : ∃ number spelled,
      firstSpelling? additions path = some spelled ∧ graph.find? path = some number ∧
        ∀ other node, graph.nodes[other]? = some node ∧ node.components = path.components ↔
          other = number ∧ node = spelled := by
  obtain ⟨number, found⟩ := Option.isSome_iff_exists.mp ((recalls.files path).mpr added)
  obtain ⟨spelled, held, same⟩ := (recalls.numbers path number).mp found
  have first : firstSpelling? additions path = firstSpelling? additions spelled := by
    unfold firstSpelling? Path.same
    rw [same]
  refine ⟨number, spelled, ?_, found, fun other node => ⟨?_, ?_⟩⟩
  · rw [first, recalls.spellings spelled (List.mem_of_getElem? held)]
  · rintro ⟨held', same'⟩
    have found' := (recalls.numbers path other).mpr ⟨node, held', same'⟩
    obtain rfl := Option.some.inj (found.symm.trans found')
    exact ⟨rfl, Option.some.inj (held'.symm.trans held)⟩
  · rintro ⟨rfl, rfl⟩
    exact ⟨held, same⟩

end Additions

/-- Over all files and imports that are added to the empty graph. The table of numbers is the inverse of the
nodes. A file that was added, however its path is spelled, has exactly one node, which has the spelling of
the first addition, and all later additions leave it its number and its spelling. Edges lead from nodes to
nodes, and no two of them from one node to the same other one. There is an edge exactly where an addition
names it, of the kind of the first such addition; the edges stand in the order of those, and stay. -/
theorem ofAdditions_exact (additions : List Addition) (graph : ImportGraph)
    (built : ofAdditions? additions = some graph) :
    (∃ table, Tabled.ofAdditions? additions = some ⟨graph, table⟩ ∧
      ∀ path number, table.find? path = some number ↔
        ∃ node, graph.nodes[number]? = some node ∧ node.components = path.components) ∧
    (∀ path, (∃ node ∈ graph.nodes, node.components = path.components) ↔ Added additions path) ∧
    (∀ path, Added additions path → ∃ number spelled,
      firstSpelling? additions path = some spelled ∧
      (∀ other node, graph.nodes[other]? = some node ∧ node.components = path.components ↔
        other = number ∧ node = spelled) ∧
      ∀ later larger, ofAdditions? (additions ++ later) = some larger →
        larger.nodes[number]? = some spelled ∧ larger.addFile path = (larger, number)) ∧
    (∀ edge ∈ graph.edges,
      edge.importer < graph.nodes.length ∧ edge.imported < graph.nodes.length) ∧
    graph.edges.Pairwise (fun first second =>
      ¬ (first.importer = second.importer ∧ first.imported = second.imported)) ∧
    (∀ importer imported, (∃ kind, ⟨importer, imported, kind⟩ ∈ graph.edges) ↔ ∃ path kind,
      Addition.edge importer path kind ∈ additions ∧ graph.find? path = some imported) ∧
    (∀ importer imported kind, ⟨importer, imported, kind⟩ ∈ graph.edges ↔
      firstKind? graph additions importer imported = some kind) ∧
    graph.edges.Pairwise (fun earlier later =>
      firstPlace graph additions earlier < firstPlace graph additions later) ∧
    ∀ later larger, ofAdditions? (additions ++ later) = some larger → graph.edges <+: larger.edges := by
  have recalls := ofAdditions_recalls built
  have kept : ∀ later larger, ofAdditions? (additions ++ later) = some larger →
      graph.nodes <+: larger.nodes ∧ graph.edges <+: larger.edges ∧ graph.Grows larger := by
    intro later larger built'
    rw [ofAdditions?, List.foldlM_append] at built'
    obtain ⟨middle, first, rest⟩ := Option.bind_eq_some_iff.mp built'
    obtain rfl := Option.some.inj (built.symm.trans first)
    exact foldlM_extends later rest
  refine ⟨?_, ?_, ?_, recalls.proper.ends, recalls.proper.once, ?_, recalls.kinds, recalls.order,
    fun later larger built' => (kept later larger built').2.1⟩
  · obtain ⟨table, built', agrees⟩ := Tabled.ofAdditions_agrees built
    refine ⟨table, built', fun path number => ?_⟩
    rw [agrees, recalls.numbers]
  · intro path
    rw [← recalls.files, find_isSome]
  · intro path added
    obtain ⟨number, spelled, first, found, only⟩ := recalls.node added
    refine ⟨number, spelled, first, only, fun later larger built' => ?_⟩
    obtain ⟨⟨more, nodes⟩, -, grows⟩ := kept later larger built'
    obtain ⟨held, -⟩ := (only number spelled).mpr ⟨rfl, rfl⟩
    constructor
    · rw [← nodes, List.getElem?_append_left (List.getElem?_eq_some_iff.mp held).1, held]
    · unfold addFile
      rw [grows.finds path number found]
  · intro importer imported
    rw [← recalls.hasEdge_iff_named, hasEdge_iff]
    constructor
    · rintro ⟨kind, member⟩
      exact ⟨_, member, rfl, rfl⟩
    · rintro ⟨edge, member, rfl, rfl⟩
      exact ⟨edge.kind, member⟩

def spelledAdditions : List Addition :=
  [.file ⟨"a"⟩, .edge 0 ⟨"b/c"⟩ .static, .edge 0 ⟨"b//c/."⟩ .dynamic, .edge 1 ⟨"a/"⟩ .reExport,
    .edge 1 ⟨"b/./c"⟩ .static, .file ⟨"./a"⟩]

def spelledGraph : ImportGraph where
  nodes := [⟨"a"⟩, ⟨"b/c"⟩, ⟨"./a"⟩]
  edges := [⟨0, 1, .static⟩, ⟨1, 0, .reExport⟩, ⟨1, 1, .static⟩]

theorem ofAdditions_exact_spelled : ofAdditions? spelledAdditions = some spelledGraph ∧
    (∃ table, Tabled.ofAdditions? spelledAdditions = some ⟨spelledGraph, table⟩ ∧
      table.find? ⟨"b/c/"⟩ = some 1) ∧
    (∃ number spelled, firstSpelling? spelledAdditions ⟨"b/c/"⟩ = some spelled ∧
      ∀ later larger, ofAdditions? (spelledAdditions ++ later) = some larger →
        larger.nodes[number]? = some spelled ∧ larger.addFile ⟨"b/c/"⟩ = (larger, number)) ∧
    firstKind? spelledGraph spelledAdditions 0 1 = some .static ∧
    ∃ path kind, Addition.edge 1 path kind ∈ spelledAdditions ∧
      spelledGraph.find? path = some 1 := by
  have built : ofAdditions? spelledAdditions = some spelledGraph := by rfl
  have added : Added spelledAdditions ⟨"b/c/"⟩ := ⟨.edge 0 ⟨"b/c"⟩ .static, by decide, by decide⟩
  obtain ⟨⟨table, built', numbers⟩, -, nodes, -, -, drawn, kinds, -, -⟩ :=
    ofAdditions_exact spelledAdditions spelledGraph built
  obtain ⟨number, spelled, first, -, kept⟩ := nodes ⟨"b/c/"⟩ added
  refine ⟨built, ⟨table, built', ?_⟩, ⟨number, spelled, first, kept⟩, (kinds 0 1 .static).mp ?_,
    (drawn 1 1).mp ⟨.static, ?_⟩⟩
  · exact (numbers ⟨"b/c/"⟩ 1).mpr ⟨⟨"b/c"⟩, rfl, by decide⟩
  · decide
  · decide

end UiContract.ImportGraph
