import Mathlib.Data.List.Nodup
import UiContract.Proofs.ShortestChain

/-!
Chains of imports in any graph that files and imports were added to. A way through the graph that no
other one undercuts has no node twice, since the part between two visits could be left out; so the
chain that is found repeats no file. Files that import each other are a way of their nodes, and the
other way round: no list of files from a source to the target is shorter than the chain.
-/
namespace UiContract.ImportGraph

inductive Addition where
  | file (path : Path)
  | edge (importer : Nat) (path : Path) (kind : ImportKind)
deriving DecidableEq, Repr

def Addition.path : Addition → Path
  | file path => path
  | edge _ path _ => path

def Added (additions : List Addition) (path : Path) : Prop :=
  ∃ addition ∈ additions, path.components = addition.path.components

/-- A graph with an addition. An import needs a node that imports; without one there is no graph. -/
def add? (graph : ImportGraph) : Addition → Option ImportGraph
  | .file path => some (graph.addFile path).1
  | .edge importer path kind =>
      if importer < (graph.addFile path).1.nodes.length then some (graph.addEdge importer path kind)
      else none

def ofAdditions? (additions : List Addition) : Option ImportGraph :=
  additions.foldlM add? {}

section Additions

variable {graph larger : ImportGraph}

theorem add_proper (proper : graph.Proper) (addition : Addition)
    (added : graph.add? addition = some larger) : larger.Proper := by
  cases addition with
  | file path =>
      obtain rfl := Option.some.inj added
      exact graph.proper_addFile path proper
  | edge importer path kind =>
      obtain ⟨known, same⟩ := Option.ite_none_right_eq_some.mp added
      obtain rfl := Option.some.inj same
      exact graph.proper_addEdge path proper kind known

theorem add_finds (addition : Addition) (added : graph.add? addition = some larger) (path : Path) :
    (larger.find? path).isSome = true ↔
      path.components = addition.path.components ∨ (graph.find? path).isSome = true := by
  cases addition with
  | file new =>
      obtain rfl := Option.some.inj added
      exact graph.find_addFile_isSome new path
  | edge importer new kind =>
      obtain ⟨-, same⟩ := Option.ite_none_right_eq_some.mp added
      obtain rfl := Option.some.inj same
      rw [find_addEdge]
      exact graph.find_addFile_isSome new path

theorem foldlM_proper (additions : List Addition) (proper : graph.Proper)
    (added : additions.foldlM add? graph = some larger) : larger.Proper := by
  induction additions generalizing graph with
  | nil =>
      obtain rfl := Option.some.inj added
      exact proper
  | cons addition rest ih =>
      obtain ⟨next, first, later⟩ := Option.bind_eq_some_iff.mp added
      exact ih (add_proper proper addition first) later

theorem foldlM_finds (additions : List Addition)
    (added : additions.foldlM add? graph = some larger) (path : Path) :
    (larger.find? path).isSome = true ↔
      Added additions path ∨ (graph.find? path).isSome = true := by
  induction additions generalizing graph with
  | nil =>
      obtain rfl := Option.some.inj added
      simp [Added]
  | cons addition rest ih =>
      obtain ⟨next, first, later⟩ := Option.bind_eq_some_iff.mp added
      rw [ih later, add_finds addition first, Added, Added, List.exists_mem_cons_iff, or_assoc,
        or_left_comm]

theorem ofAdditions_proper {additions : List Addition} (built : ofAdditions? additions = some graph) :
    graph.Proper :=
  foldlM_proper additions proper_empty built

theorem ofAdditions_finds {additions : List Addition} (built : ofAdditions? additions = some graph)
    (path : Path) : graph.find? path = none ↔ ¬ Added additions path := by
  have finds := foldlM_finds additions built path
  have empty : (({} : ImportGraph).find? path).isSome = false := rfl
  rw [empty, or_iff_left Bool.false_ne_true] at finds
  rw [← Option.not_isSome_iff_eq_none, finds]

end Additions

section Routes

variable {graph : ImportGraph} {starts : List Nat} {way : List Nat}

/-- A way leads to each of its nodes, and there it is shorter than as a whole. -/
theorem Route.cut (route : Route graph starts way) {node : Nat} (member : node ∈ way) :
    ∃ rest, Route graph starts (node :: rest) ∧ rest.length < way.length := by
  induction route with
  | start known =>
      obtain rfl := List.mem_singleton.mp member
      exact ⟨[], .start known, Nat.one_pos⟩
  | step route edge ih =>
      rcases List.mem_cons.mp member with rfl | earlier
      · exact ⟨_, .step route edge, Nat.lt_add_one _⟩
      · obtain ⟨rest, shorter, less⟩ := ih earlier
        exact ⟨rest, shorter, Nat.lt_succ_of_lt less⟩

theorem Route.nodup_or_longer (route : Route graph starts way) : way.Nodup ∨
    ∃ node rest other, way = node :: rest ∧ Route graph starts (node :: other) ∧
      other.length < rest.length := by
  induction route with
  | start known => exact .inl (List.pairwise_singleton _ _)
  | @step node next earlier route edge ih =>
      rcases ih with distinct | ⟨node', rest, other, same, shorter, less⟩
      · by_cases again : next ∈ node :: earlier
        · obtain ⟨rest, shorter, less⟩ := route.cut again
          exact .inr ⟨next, node :: earlier, rest, rfl, shorter, less⟩
        · exact .inl (List.nodup_cons.mpr ⟨again, distinct⟩)
      · obtain ⟨rfl, rfl⟩ := List.cons_eq_cons.mp same
        exact .inr ⟨next, node :: earlier, node :: other, rfl, .step shorter edge,
          Nat.succ_lt_succ less⟩

theorem Route.begins (route : Route graph starts way) : starts ≠ [] := by
  induction route with
  | start known => exact List.ne_nil_of_mem known
  | step route edge ih => exact ih

theorem Route.inside (proper : graph.Proper) (begins : ∀ node ∈ starts, node < graph.nodes.length)
    (route : Route graph starts way) : ∀ node ∈ way, node < graph.nodes.length := by
  intro node member
  obtain ⟨rest, shorter, -⟩ := route.cut member
  exact shorter.lt proper begins

end Routes

section Files

variable {graph : ImportGraph} {sources : List Path} {target : Path}

theorem filesOf_length (nodes : List Nat) (inside : ∀ node ∈ nodes, node < graph.nodes.length) :
    (nodes.filterMap (graph.nodes[·]?)).length = nodes.length := by
  rw [List.filterMap_length_eq_length]
  intro node member
  rw [List.getElem?_eq_getElem (inside node member)]
  rfl

theorem filesOf_apart (proper : graph.Proper) (nodes : List Nat) (distinct : nodes.Nodup) :
    (nodes.filterMap (graph.nodes[·]?)).Pairwise
      fun first second => first.components ≠ second.components := by
  refine List.pairwise_filterMap.mpr (distinct.imp ?_)
  intro number number' apart file held file' held' same
  have found := graph.find_getElem proper held
  rw [graph.find_congr same, graph.find_getElem proper held'] at found
  exact apart (Option.some.inj found).symm

theorem sources_inside : ∀ node ∈ sources.filterMap graph.find?, node < graph.nodes.length := by
  intro node member
  obtain ⟨source, -, known⟩ := List.mem_filterMap.mp member
  exact graph.find_lt source known

theorem Leads.route {chain : List Path} (leads : Leads graph sources target chain) {goal : Nat}
    (found : graph.find? target = some goal) : ∃ earlier,
      Route graph (sources.filterMap graph.find?) (goal :: earlier) ∧
        earlier.length + 1 = chain.length := by
  -- From the end to the front: the file before the last one is the target of what stands before it.
  induction chain using List.reverseRecOn generalizing target goal with
  | nil =>
      obtain ⟨first, none, -⟩ := leads.begins
      contradiction
  | append_singleton front last ih =>
      obtain ⟨file, isLast, same⟩ := leads.ends
      rw [List.getLast?_concat] at isLast
      obtain rfl := Option.some.inj isLast
      rw [← graph.find_congr same] at found
      rcases List.eq_nil_or_concat front with rfl | ⟨before, importer, rfl⟩
      · obtain ⟨first, isFirst, source, listed, begins⟩ := leads.begins
        obtain rfl := Option.some.inj isFirst
        rw [← graph.find_congr begins] at found
        exact ⟨[], .start (List.mem_filterMap.mpr ⟨source, listed, found⟩), rfl⟩
      · rw [List.concat_eq_append] at leads ih
        obtain ⟨follows, -, edges⟩ := List.isChain_append.mp leads.follows
        obtain ⟨kind, edge, member, found', ends, -⟩ :=
          edges importer List.getLast?_concat last rfl
        have begins := leads.begins
        rw [List.head?_append, List.head?_append] at begins
        have shorter : Leads graph sources importer (before ++ [importer]) :=
          ⟨by simpa [List.head?_append] using begins, ⟨importer, List.getLast?_concat, rfl⟩, follows⟩
        obtain ⟨earlier, route, length⟩ := ih shorter found'
        obtain rfl := Option.some.inj (ends.symm.trans found)
        refine ⟨edge.importer :: earlier, .step route ?_, ?_⟩
        · exact (graph.hasEdge_iff _ _).mpr ⟨edge, member, rfl, rfl⟩
        · rw [List.length_cons, length]
          simp

/-- The answer of a search for a known target, in files: a chain of different files that no other
one undercuts, or that there is none. -/
theorem shortestChain_files (proper : graph.Proper) {chain : List Path}
    (answered : graph.shortestChain sources target = some chain) :
    Leads graph sources target chain ∧ (∀ file ∈ chain, file ∈ graph.nodes) ∧
      chain.Pairwise (fun first second => first.components ≠ second.components) ∧
      ∀ route, Leads graph sources target route → chain.length ≤ route.length := by
  cases found : graph.find? target with
  | none => simp [shortestChain, found] at answered
  | some goal =>
      obtain ⟨answer, answers, same⟩ := shortestChain_answers sources proper found
      rw [answered] at same
      obtain ⟨nodes, rfl, rfl⟩ := Option.map_eq_some_iff.mp same.symm
      obtain ⟨earlier, rfl, route, shortest⟩ := answers
      have inside : ∀ node ∈ (goal :: earlier).reverse, node < graph.nodes.length :=
        fun node member => route.inside proper sources_inside node (List.mem_reverse.mp member)
      refine ⟨route.leads proper found, ?_, ?_, ?_⟩
      · intro file member
        obtain ⟨node, -, held⟩ := List.mem_filterMap.mp member
        exact List.mem_of_getElem? held
      · refine filesOf_apart proper _ (List.nodup_reverse.mpr ?_)
        rcases route.nodup_or_longer with distinct | ⟨node, rest, other, same, shorter, less⟩
        · exact distinct
        · obtain ⟨rfl, rfl⟩ := List.cons_eq_cons.mp same
          exact absurd (shortest other shorter) (Nat.not_le_of_lt less)
      · intro other leads
        obtain ⟨before, route', length⟩ := leads.route found
        rw [filesOf_length _ inside, List.length_reverse, List.length_cons, ← length]
        exact Nat.succ_le_succ (shortest before route')

theorem shortestChain_none (proper : graph.Proper) :
    graph.shortestChain sources target = none ↔
      graph.find? target = none ∨ ∀ route, ¬ Leads graph sources target route := by
  constructor
  · intro none
    cases found : graph.find? target with
    | none => exact .inl rfl
    | some goal =>
        refine .inr fun route leads => ?_
        obtain ⟨earlier, route', -⟩ := leads.route found
        have answered := (shortestChain_isSome proper).mpr ⟨goal, earlier, found, route'⟩
        rw [none] at answered
        contradiction
  · rintro (unknown | blocked)
    · simp [shortestChain, unknown]
    · cases answered : graph.shortestChain sources target with
      | none => rfl
      | some chain => exact absurd (shortestChain_leads proper answered) (blocked chain)

/-- A chain from some sources begins at one of them, and is a chain from there. -/
theorem leads_iff_single (route : List Path) : Leads graph sources target route ↔
    ∃ source ∈ sources, Leads graph [source] target route := by
  constructor
  · rintro ⟨⟨first, isFirst, source, listed, same⟩, ends, follows⟩
    exact ⟨source, listed, ⟨first, isFirst, source, List.mem_singleton_self source, same⟩, ends,
      follows⟩
  · rintro ⟨source, listed, ⟨first, isFirst, other, single, same⟩, ends, follows⟩
    obtain rfl := List.mem_singleton.mp single
    exact ⟨⟨first, isFirst, other, listed, same⟩, ends, follows⟩

theorem shortestChain_self (proper : graph.Proper) (known : graph.find? target ≠ none) {source : Path}
    (listed : source ∈ sources) (same : source.components = target.components) :
    ∃ file, graph.shortestChain sources target = some [file] ∧
      file.components = target.components := by
  obtain ⟨goal, found⟩ := Option.ne_none_iff_exists'.mp known
  obtain ⟨file, -, same'⟩ := graph.find_eq_some target found
  have alone : Leads graph sources target [file] :=
    ⟨⟨file, rfl, source, listed, same.trans same'.symm⟩, ⟨file, rfl, same'⟩, .singleton file⟩
  cases answered : graph.shortestChain sources target with
  | none => exact absurd alone (((shortestChain_none proper).mp answered).resolve_left known [file])
  | some chain =>
      obtain ⟨⟨⟨first, isFirst, -⟩, ⟨last, isLast, ends⟩, -⟩, -, -, shortest⟩ :=
        shortestChain_files proper answered
      have short : chain.length ≤ 1 := shortest [file] alone
      match chain with
      | [] => contradiction
      | [only] =>
          obtain rfl := Option.some.inj isLast
          exact ⟨only, rfl, ends⟩
      | _ :: _ :: _ => simp at short

end Files

/-- The search for a chain, over any graph that files and imports were added to. There is no answer
exactly where the target was never added or no source that was added leads to it. An answer begins at a
source, ends at the target, follows an import from each file to the next, has no file twice, and is no
longer than any other chain from a source to the target; a target that is a source is the answer alone. -/
theorem shortestChain_exact (additions : List Addition) (graph : ImportGraph)
    (built : ofAdditions? additions = some graph) (sources : List Path) (target : Path) :
    (graph.shortestChain sources target = none ↔ ¬ Added additions target ∨
      ∀ source ∈ sources, Added additions source → ∀ route, ¬ Leads graph [source] target route) ∧
    (∀ chain, graph.shortestChain sources target = some chain →
      Leads graph sources target chain ∧ (∀ file ∈ chain, file ∈ graph.nodes) ∧
      chain.Pairwise (fun first second => first.components ≠ second.components) ∧
      ∀ source ∈ sources, ∀ route, Leads graph [source] target route →
        chain.length ≤ route.length) ∧
    (Added additions target → (∃ source ∈ sources, source.components = target.components) →
      ∃ file, graph.shortestChain sources target = some [file] ∧
        file.components = target.components) := by
  have proper := ofAdditions_proper built
  have unknown := ofAdditions_finds built
  refine ⟨?_, ?_, ?_⟩
  · rw [shortestChain_none proper, unknown]
    refine or_congr_right' fun known => ?_
    constructor
    · intro blocked source listed _ route leads
      exact blocked route ((leads_iff_single route).mpr ⟨source, listed, leads⟩)
    · intro blocked route leads
      obtain ⟨source, listed, single⟩ := (leads_iff_single route).mp leads
      obtain ⟨goal, found⟩ :=
        Option.ne_none_iff_exists'.mp (mt (unknown target).mp known)
      obtain ⟨earlier, way, -⟩ := single.route found
      -- A way from the source begins at its node, so the source was added.
      refine blocked source listed (not_not.mp (mt (unknown source).mpr ?_)) route single
      intro unfound
      exact way.begins (by simp [unfound])
  · intro chain answered
    obtain ⟨leads, inside, apart, shortest⟩ := shortestChain_files proper answered
    exact ⟨leads, inside, apart, fun source listed route single =>
      shortest route ((leads_iff_single route).mpr ⟨source, listed, single⟩)⟩
  · rintro known ⟨source, listed, same⟩
    exact shortestChain_self proper (mt (unknown target).mp (not_not.mpr known)) listed same

def cyclicAdditions : List Addition :=
  [.file ⟨"a"⟩, .edge 0 ⟨"b"⟩ .static, .edge 1 ⟨"a/."⟩ .static, .edge 1 ⟨"c"⟩ .static,
    .edge 0 ⟨"b"⟩ .dynamic]

def cyclicGraph : ImportGraph :=
  { nodes := [⟨"a"⟩, ⟨"b"⟩, ⟨"c"⟩], edges := [⟨0, 1, .static⟩, ⟨1, 0, .static⟩, ⟨1, 2, .static⟩] }

theorem shortestChain_exact_cyclic : ofAdditions? cyclicAdditions = some cyclicGraph ∧
    cyclicGraph.shortestChain [⟨"d"⟩, ⟨"./a"⟩] ⟨"c"⟩ = none ∧
    cyclicGraph.shortestChain [⟨"d"⟩, ⟨"a/"⟩, ⟨"a"⟩] ⟨"c"⟩ = some [⟨"a"⟩, ⟨"b"⟩, ⟨"c"⟩] ∧
    (∀ route, Leads cyclicGraph [⟨"a"⟩] ⟨"c"⟩ route → 3 ≤ route.length) ∧
    ∃ file, cyclicGraph.shortestChain [⟨"c"⟩, ⟨"a"⟩] ⟨"a/"⟩ = some [file] ∧
      file.components = (Path.mk "a/").components := by
  have built : ofAdditions? cyclicAdditions = some cyclicGraph := by rfl
  have none : cyclicGraph.shortestChain [⟨"d"⟩, ⟨"./a"⟩] ⟨"c"⟩ = none := by decide
  have chain : cyclicGraph.shortestChain [⟨"d"⟩, ⟨"a/"⟩, ⟨"a"⟩] ⟨"c"⟩ =
      some [⟨"a"⟩, ⟨"b"⟩, ⟨"c"⟩] := by decide
  have named : Added cyclicAdditions ⟨"a/"⟩ :=
    ⟨.file ⟨"a"⟩, by decide, by decide⟩
  have listed : ∃ source ∈ [Path.mk "c", ⟨"a"⟩], source.components = (Path.mk "a/").components :=
    ⟨⟨"a"⟩, by decide, by decide⟩
  obtain ⟨-, found, -⟩ := shortestChain_exact cyclicAdditions cyclicGraph built
    [⟨"d"⟩, ⟨"a/"⟩, ⟨"a"⟩] ⟨"c"⟩
  obtain ⟨-, -, self⟩ := shortestChain_exact cyclicAdditions cyclicGraph built
    [⟨"c"⟩, ⟨"a"⟩] ⟨"a/"⟩
  exact ⟨built, none, chain, (found _ chain).2.2.2 ⟨"a"⟩ (by decide), self named listed⟩

end UiContract.ImportGraph
