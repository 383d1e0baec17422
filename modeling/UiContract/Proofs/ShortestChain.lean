import Mathlib.Data.List.Chain
import Mathlib.Data.List.Perm.Subperm
import UiContract.Proofs.ImportGraph
import UiContract.Proofs.SortedMap

/-!
The search by breadth of `shortest_chain`. Behind the nodes that wait and the map of the nodes before them
stand chains, which `unwind` reads back. The chains that were taken off and those that wait grow by at most
one node at a time and lead to different nodes, so their number is bounded; what an ended chain imports is
the end of another chain that is longer by at most one. A way through the graph that has no such chain as
short as itself is thus still to be searched, and the first chain that ends in the goal is a shortest one.
-/
namespace UiContract.ImportGraph

inductive Route (graph : ImportGraph) (starts : List Nat) : List Nat → Prop where
  | start {node : Nat} (member : node ∈ starts) : Route graph starts [node]
  | step {node next : Nat} {earlier : List Nat} (route : Route graph starts (node :: earlier))
      (edge : graph.hasEdge node next = true) : Route graph starts (next :: node :: earlier)

variable {graph : ImportGraph} {starts : List Nat}

theorem Route.mono {larger : ImportGraph} {more : List Nat} {route : List Nat}
    (begins : ∀ node ∈ starts, node ∈ more)
    (edges : ∀ node next, graph.hasEdge node next = true → larger.hasEdge node next = true)
    (leads : Route graph starts route) : Route larger more route := by
  induction leads with
  | start member => exact .start (begins _ member)
  | step _ edge ih => exact .step ih (edges _ _ edge)

theorem Route.exists_cons {route : List Nat} (leads : Route graph starts route) :
    ∃ node earlier, route = node :: earlier := by
  cases leads with
  | start member => exact ⟨_, _, rfl⟩
  | step route edge => exact ⟨_, _, rfl⟩

theorem hasEdge_lt (proper : graph.Proper) {node next : Nat}
    (edge : graph.hasEdge node next = true) :
    node < graph.nodes.length ∧ next < graph.nodes.length := by
  obtain ⟨edge', member, rfl, rfl⟩ := (hasEdge_iff graph node next).mp edge
  exact proper.ends edge' member

theorem Route.lt (proper : graph.Proper) (inside : ∀ node ∈ starts, node < graph.nodes.length)
    {node : Nat} {earlier : List Nat} (leads : Route graph starts (node :: earlier)) :
    node < graph.nodes.length := by
  cases leads with
  | start member => exact inside node member
  | step route edge => exact (hasEdge_lt proper edge).2

theorem mem_importedBy (node next : Nat) :
    next ∈ graph.importedBy node ↔ graph.hasEdge node next = true := by
  simp [importedBy, hasEdge_iff, and_assoc]

theorem offer_known {from? : Option Nat} {search : Search} {node : Nat}
    (known : search.parent.contains node = true) : Search.offer from? search node = search := by
  rw [Search.offer, if_pos known]

theorem offer_fresh {from? : Option Nat} {search : Search} {node : Nat}
    (fresh : search.parent.contains node = false) :
    Search.offer from? search node = ⟨search.queue ++ [node], search.parent.insert node from?⟩ := by
  rw [Search.offer, if_neg (by simp [fresh])]

/-- Of some nodes those that are new wait, each once, and are reached from the same node. -/
theorem offer_all (from? : Option Nat) (nodes : List Nat) (search : Search) :
    ∃ fresh : List Nat, fresh.Nodup ∧
      (∀ node ∈ fresh, node ∈ nodes ∧ search.parent.contains node = false) ∧
      (∀ node ∈ nodes, search.parent.contains node = true ∨ node ∈ fresh) ∧
      (nodes.foldl (Search.offer from?) search).queue = search.queue ++ fresh ∧
      ∀ node, (nodes.foldl (Search.offer from?) search).parent.find? node =
        if node ∈ fresh then some from? else search.parent.find? node := by
  induction nodes generalizing search with
  | nil => exact ⟨[], .nil, nofun, nofun, by simp, by simp⟩
  | cons first rest ih =>
      rw [List.foldl_cons]
      cases known : search.parent.contains first with
      | true =>
          rw [offer_known known]
          obtain ⟨fresh, distinct, new, all, queue, parent⟩ := ih search
          refine ⟨fresh, distinct, fun node member => ?_, fun node member => ?_, queue, parent⟩
          · exact ⟨List.mem_cons_of_mem first (new node member).1, (new node member).2⟩
          · rcases List.mem_cons.mp member with rfl | later
            · exact .inl known
            · exact all node later
      | false =>
          rw [offer_fresh known]
          obtain ⟨fresh, distinct, new, all, queue, parent⟩ :=
            ih ⟨search.queue ++ [first], search.parent.insert first from?⟩
          have reached (node : Nat) : (search.parent.insert first from?).contains node = true ↔
              node = first ∨ search.parent.contains node = true := by
            rw [SortedMap.contains_insert, Nat.compare_eq_eq]
          have unseen : ∀ node ∈ fresh, node ≠ first ∧ search.parent.contains node = false := by
            intro node member
            have := (reached node).not.mp (by simp [(new node member).2])
            simpa using this
          refine ⟨first :: fresh, List.nodup_cons.mpr ⟨?_, distinct⟩, ?_, ?_, ?_, ?_⟩
          · exact fun again => (unseen first again).1 rfl
          · intro node member
            rcases List.mem_cons.mp member with rfl | later
            · exact ⟨List.mem_cons_self, known⟩
            · exact ⟨List.mem_cons_of_mem first (new node later).1, (unseen node later).2⟩
          · intro node member
            rcases List.mem_cons.mp member with rfl | later
            · exact .inr List.mem_cons_self
            · rw [List.mem_cons, or_left_comm, ← or_assoc, ← reached]
              exact all node later
          · rw [queue, List.append_assoc]
            rfl
          · intro node
            rw [parent, SortedMap.find_insert]
            by_cases later : node ∈ fresh
            · simp [later]
            · simp only [later, if_false, Nat.compare_eq_eq, List.mem_cons, or_false]

/-- What every step of a search keeps. The chains that were taken off so far are `done`, those that wait are
`waiting`, each with its last node first; the search itself keeps their last nodes and the nodes before these. -/
structure Search.Sound (graph : ImportGraph) (starts : List Nat) (goal : Nat)
    (done waiting : List (List Nat)) (search : Search) : Prop where
  queued : search.queue.map some = waiting.map List.head?
  parents : ∀ node before?, search.parent.find? node = some before? ↔
    ∃ earlier, node :: earlier ∈ done ++ waiting ∧ earlier.head? = before?
  backed : ∀ node before earlier, node :: before :: earlier ∈ done ++ waiting → before :: earlier ∈ done
  short : ∀ chain ∈ done ++ waiting, chain.length ≤ done.length + 1
  routes : ∀ chain ∈ done ++ waiting, Route graph starts chain
  apart : (done ++ waiting).Pairwise fun first second => first.head? ≠ second.head?
  ascending : (done ++ waiting).Pairwise fun first second => first.length ≤ second.length
  level : ∀ first ∈ waiting.head?, ∀ chain ∈ done ++ waiting, chain.length ≤ first.length + 1
  begun : ∀ node ∈ starts, [node] ∈ done ++ waiting
  closed : ∀ node earlier, node :: earlier ∈ done → ∀ next, graph.hasEdge node next = true →
    ∃ before, next :: before ∈ done ++ waiting ∧ before.length ≤ earlier.length + 1
  missed : ∀ earlier, goal :: earlier ∉ done

namespace Search.Sound

variable {goal : Nat} {done waiting : List (List Nat)} {search : Search}

theorem contains_iff (sound : Search.Sound graph starts goal done waiting search) (node : Nat) :
    search.parent.contains node = true ↔ ∃ earlier, node :: earlier ∈ done ++ waiting := by
  rw [SortedMap.contains, Option.isSome_iff_exists]
  constructor
  · rintro ⟨before?, found⟩
    obtain ⟨earlier, member, -⟩ := (sound.parents node before?).mp found
    exact ⟨earlier, member⟩
  · rintro ⟨earlier, member⟩
    exact ⟨_, (sound.parents node _).mpr ⟨earlier, member, rfl⟩⟩

theorem unwind_eq (sound : Search.Sound graph starts goal done waiting search) (steps node : Nat)
    (earlier : List Nat) (member : node :: earlier ∈ done ++ waiting)
    (enough : earlier.length < steps) :
    unwind search.parent steps node = (node :: earlier).reverse := by
  induction steps generalizing node earlier with
  | zero => exact absurd enough (Nat.not_lt_zero _)
  | succ steps ih =>
      rw [unwind, (sound.parents node _).mpr ⟨earlier, member, rfl⟩]
      cases earlier with
      | nil => rfl
      | cons before earlier =>
          have back := ih before earlier
            (List.mem_append_left _ (sound.backed node before earlier member))
            (Nat.lt_of_succ_lt_succ enough)
          simp only [List.head?_cons, Option.join_some, back]
          rw [← List.reverse_cons]

theorem extend (old : List (List Nat)) (earlier fresh : List Nat) (distinct : fresh.Nodup)
    (apart : old.Pairwise fun first second => first.head? ≠ second.head?)
    (ascending : old.Pairwise fun first second => first.length ≤ second.length)
    (new : ∀ node ∈ fresh, ∀ before, node :: before ∉ old)
    (longest : ∀ chain ∈ old, chain.length ≤ earlier.length + 1) :
    ((old ++ fresh.map (· :: earlier)).Pairwise fun first second =>
        first.head? ≠ second.head?) ∧
      (old ++ fresh.map (· :: earlier)).Pairwise fun first second =>
        first.length ≤ second.length := by
  constructor
  · refine List.pairwise_append.mpr ⟨apart, ?_, ?_⟩
    · refine List.pairwise_map.mpr (distinct.imp fun different same => ?_)
      exact different (by simpa using same)
    · intro chain member other added same
      obtain ⟨node, isFresh, rfl⟩ := List.mem_map.mp added
      obtain ⟨before, rfl⟩ := List.head?_eq_some_iff.mp same
      exact new node isFresh before member
  · refine List.pairwise_append.mpr ⟨ascending, ?_, ?_⟩
    · exact List.pairwise_map.mpr (distinct.imp fun _ => Nat.le_refl _)
    · intro chain member other added
      obtain ⟨node, -, rfl⟩ := List.mem_map.mp added
      exact longest chain member

variable (graph starts goal) in
theorem start : ∃ waiting, Search.Sound graph starts goal [] waiting
    (starts.foldl (Search.offer none) {}) := by
  obtain ⟨fresh, distinct, new, all, queue, parent⟩ := offer_all none starts {}
  obtain ⟨apart, ascending⟩ := extend [] [] fresh distinct .nil .nil (by simp) (by simp)
  refine ⟨fresh.map ([·]), ?_⟩
  constructor
  case queued =>
    rw [queue]
    simp
  case parents =>
    intro node before?
    rw [parent]
    by_cases isFresh : node ∈ fresh
    · simp [isFresh]
    · simp [isFresh, SortedMap.find?, show (∅ : SortedMap Nat (Option Nat)).entries = [] from rfl]
  case backed =>
    simp
  case short =>
    simp
  case routes =>
    intro chain member
    obtain ⟨node, isFresh, rfl⟩ := List.mem_map.mp member
    exact .start (new node isFresh).1
  case apart =>
    exact apart
  case ascending =>
    exact ascending
  case level =>
    intro first _ chain member
    obtain ⟨node, -, rfl⟩ := List.mem_map.mp member
    simp
  case begun =>
    intro node member
    exact List.mem_map.mpr ⟨node, (all node member).resolve_left Bool.false_ne_true, rfl⟩
  case closed =>
    simp
  case missed =>
    simp

/-- A chain that does not end in the goal is taken off, and what its last node imports waits. -/
theorem advance {node : Nat} {earlier queue : List Nat} {rest : List (List Nat)}
    {parent : SortedMap Nat (Option Nat)}
    (sound : Search.Sound graph starts goal done ((node :: earlier) :: rest) ⟨node :: queue, parent⟩)
    (other : node ≠ goal) :
    ∃ waiting, Search.Sound graph starts goal (done ++ [node :: earlier]) waiting
      ((graph.importedBy node).foldl (Search.offer (some node)) ⟨queue, parent⟩) := by
  obtain ⟨fresh, distinct, new, all, queued, parents⟩ :=
    offer_all (some node) (graph.importedBy node) ⟨queue, parent⟩
  dsimp only at new all queued parents
  -- No chain is lost when one is taken off: the new ones are put behind all that there were.
  have chains : ∀ chain, chain ∈ done ++ [node :: earlier] ++
        (rest ++ fresh.map (· :: node :: earlier)) ↔
      chain ∈ done ++ (node :: earlier) :: rest ∨ ∃ next ∈ fresh, next :: node :: earlier = chain := by
    intro chain
    simp [or_assoc]
  have longest : ∀ chain ∈ done ++ (node :: earlier) :: rest,
      chain.length ≤ (node :: earlier).length + 1 :=
    sound.level (node :: earlier) rfl
  have unseen : ∀ next ∈ fresh, ∀ before, next :: before ∉ done ++ (node :: earlier) :: rest := by
    intro next isFresh before member
    have known := (sound.contains_iff next).mpr ⟨before, member⟩
    exact Bool.false_ne_true ((new next isFresh).2.symm.trans known)
  have head : node :: earlier ∈ done ++ (node :: earlier) :: rest := by simp
  obtain ⟨apart, ascending⟩ := extend _ (node :: earlier) fresh distinct sound.apart
    sound.ascending unseen longest
  rw [List.append_cons, List.append_assoc] at apart ascending
  refine ⟨rest ++ fresh.map (· :: node :: earlier), ?_⟩
  constructor
  case queued =>
    have waits := (List.cons_eq_cons.mp sound.queued).2
    rw [queued, List.map_append, List.map_append, waits, List.map_map]
    rfl
  case parents =>
    intro next before?
    rw [parents]
    simp only [chains]
    by_cases isFresh : next ∈ fresh
    · rw [if_pos isFresh]
      constructor
      · rintro ⟨⟩
        exact ⟨node :: earlier, .inr ⟨next, isFresh, rfl⟩, rfl⟩
      · rintro ⟨before, old | ⟨_, -, same⟩, rfl⟩
        · exact absurd old (unseen next isFresh before)
        · rw [← (List.cons_eq_cons.mp same).2]
          rfl
    · rw [if_neg isFresh, sound.parents]
      refine exists_congr fun before => and_congr_left fun _ => ⟨.inl, fun known => ?_⟩
      refine known.resolve_right ?_
      rintro ⟨next', isFresh', same⟩
      exact isFresh ((List.cons_eq_cons.mp same).1 ▸ isFresh')
  case backed =>
    intro next before back member
    rcases (chains _).mp member with old | ⟨_, -, same⟩
    · exact List.mem_append_left _ (sound.backed next before back old)
    · rw [← (List.cons_eq_cons.mp same).2]
      exact List.mem_append_right _ List.mem_cons_self
  case short =>
    intro chain member
    rw [List.length_append, List.length_singleton]
    rcases (chains chain).mp member with old | ⟨next, -, rfl⟩
    · exact Nat.le_succ_of_le (sound.short chain old)
    · exact Nat.succ_le_succ (sound.short _ head)
  case routes =>
    intro chain member
    rcases (chains chain).mp member with old | ⟨next, isFresh, rfl⟩
    · exact sound.routes chain old
    · exact .step (sound.routes _ head) ((mem_importedBy node next).mp (new next isFresh).1)
  case apart =>
    exact apart
  case ascending =>
    exact ascending
  case level =>
    intro first isFirst chain member
    have after : (node :: earlier).length ≤ first.length :=
      (List.pairwise_append.mp ascending).2.2 _ (by simp) first (List.mem_of_head? isFirst)
    refine Nat.le_trans ?_ (Nat.add_le_add_right after 1)
    rcases (chains chain).mp member with old | ⟨next, -, rfl⟩
    · exact longest chain old
    · exact Nat.le_refl _
  case begun =>
    intro begin member
    exact (chains _).mpr (.inl (sound.begun begin member))
  case closed =>
    intro last before member next edge
    rcases List.mem_append.mp member with old | new'
    · obtain ⟨chain, known, short⟩ := sound.closed last before old next edge
      exact ⟨chain, (chains _).mpr (.inl known), short⟩
    · obtain ⟨rfl, rfl⟩ := List.cons_eq_cons.mp (List.mem_singleton.mp new')
      rcases all next ((mem_importedBy last next).mpr edge) with old | isFresh
      · obtain ⟨chain, known⟩ := (sound.contains_iff next).mp old
        exact ⟨chain, (chains _).mpr (.inl known), by simpa using longest _ known⟩
      · exact ⟨last :: before, (chains _).mpr (.inr ⟨next, isFresh, rfl⟩), Nat.le_refl _⟩
  case missed =>
    intro before member
    rcases List.mem_append.mp member with old | new'
    · exact sound.missed before old
    · exact other (List.cons_eq_cons.mp (List.mem_singleton.mp new')).1.symm

/-- A way through the graph ends where a chain ends that is no longer, or is still to be searched. -/
theorem covers (sound : Search.Sound graph starts goal done waiting search) {node : Nat}
    {earlier : List Nat} (route : Route graph starts (node :: earlier)) :
    (∃ before, node :: before ∈ done ++ waiting ∧ before.length ≤ earlier.length) ∨
      ∃ chain ∈ waiting, chain.length ≤ earlier.length := by
  generalize whole : node :: earlier = way at route
  -- The way is followed from its start as long as its nodes were taken off.
  induction route generalizing node earlier with
  | start member =>
      obtain ⟨rfl, rfl⟩ := List.cons_eq_cons.mp whole
      exact .inl ⟨[], sound.begun node member, Nat.le_refl _⟩
  | step route edge ih =>
      obtain ⟨rfl, rfl⟩ := List.cons_eq_cons.mp whole
      rcases ih rfl with ⟨before, member, short⟩ | ⟨chain, waits, short⟩
      · rcases List.mem_append.mp member with old | waits
        · obtain ⟨before', member', short'⟩ := sound.closed _ before old _ edge
          exact .inl ⟨before', member', Nat.le_trans short' (Nat.succ_le_succ short)⟩
        · exact .inr ⟨_, waits, Nat.succ_le_succ short⟩
      · exact .inr ⟨chain, waits, Nat.le_succ_of_le short⟩

theorem length_le (sound : Search.Sound graph starts goal done waiting search) (proper : graph.Proper)
    (inside : ∀ node ∈ starts, node < graph.nodes.length) :
    (done ++ waiting).length ≤ graph.nodes.length := by
  have heads : ((done ++ waiting).map List.head?).Nodup := List.pairwise_map.mpr sound.apart
  have known : (done ++ waiting).map List.head? ⊆ (List.range graph.nodes.length).map some := by
    intro head member
    obtain ⟨chain, chained, rfl⟩ := List.mem_map.mp member
    obtain ⟨node, earlier, rfl⟩ := (sound.routes chain chained).exists_cons
    exact List.mem_map.mpr
      ⟨node, List.mem_range.mpr ((sound.routes _ chained).lt proper inside), rfl⟩
  simpa using (heads.subperm known).length_le

theorem head_length_lt {node : Nat} {earlier : List Nat} {rest : List (List Nat)}
    (sound : Search.Sound graph starts goal done ((node :: earlier) :: rest) search)
    (proper : graph.Proper) (inside : ∀ node ∈ starts, node < graph.nodes.length) :
    earlier.length < graph.nodes.length := by
  have bounded := sound.length_le proper inside
  have short := sound.short (node :: earlier) (by simp)
  simp only [List.length_append, List.length_cons] at bounded short
  omega

end Search.Sound

def Answers (graph : ImportGraph) (starts : List Nat) (goal : Nat) : Option (List Nat) → Prop
  | some chain => ∃ earlier, chain = (goal :: earlier).reverse ∧
      Route graph starts (goal :: earlier) ∧
      ∀ other, Route graph starts (goal :: other) → earlier.length ≤ other.length
  | none => ∀ earlier, ¬ Route graph starts (goal :: earlier)

theorem searchFor_answers (proper : graph.Proper)
    (inside : ∀ node ∈ starts, node < graph.nodes.length) (goal steps : Nat)
    (done waiting : List (List Nat)) (search : Search)
    (sound : Search.Sound graph starts goal done waiting search)
    (enough : graph.nodes.length < steps + done.length) :
    Answers graph starts goal ((graph.searchFor goal steps search).map fun found =>
      unwind found.parent graph.nodes.length goal) := by
  -- Every step takes a chain off, and there are no more chains than nodes: the steps do not run out.
  induction steps generalizing done waiting search with
  | zero =>
      have bounded := sound.length_le proper inside
      rw [List.length_append] at bounded
      omega
  | succ steps ih =>
      obtain ⟨queue, parent⟩ := search
      have queued := sound.queued
      cases waiting with
      | nil =>
          obtain rfl : queue = [] := by simpa using queued
          -- All chains were taken off, and none of them ended in the goal.
          intro earlier route
          rcases sound.covers route with ⟨before, member, -⟩ | ⟨chain, waits, -⟩
          · exact sound.missed before (by simpa using member)
          · contradiction
      | cons chain rest =>
          obtain ⟨node, earlier, rfl⟩ := (sound.routes chain (by simp)).exists_cons
          have head : node :: earlier ∈ done ++ (node :: earlier) :: rest := by simp
          cases queue with
          | nil => simp at queued
          | cons first queue =>
              obtain rfl : first = node := by simpa using (List.cons_eq_cons.mp queued).1
              have shortest : ∀ other ∈ (first :: earlier) :: rest,
                  (first :: earlier).length ≤ other.length := by
                intro other member
                rcases List.mem_cons.mp member with rfl | later
                · exact Nat.le_refl _
                · exact (List.pairwise_cons.mp (List.pairwise_append.mp sound.ascending).2.1).1
                    other later
              rw [searchFor]
              dsimp only
              by_cases found : first = goal
              · -- No chain that waits is shorter, and every other way leads through one of them.
                subst found
                rw [if_pos (beq_self_eq_true first), Option.map_some,
                  sound.unwind_eq _ first earlier head (sound.head_length_lt proper inside)]
                refine ⟨earlier, rfl, sound.routes _ head, fun other route => ?_⟩
                rcases sound.covers route with ⟨before, member, short⟩ | ⟨chain, waits, short⟩
                · have waits := (List.mem_append.mp member).resolve_left (sound.missed before)
                  exact Nat.le_trans (Nat.le_of_succ_le_succ (shortest _ waits)) short
                · exact Nat.le_of_succ_le (Nat.le_trans (shortest chain waits) short)
              · rw [if_neg (by simpa using found)]
                obtain ⟨waiting, next⟩ := sound.advance found
                refine ih _ waiting _ next ?_
                rw [List.length_append, List.length_singleton]
                omega

/-- The files are a chain of imports from one of the sources to the target. -/
structure Leads (graph : ImportGraph) (sources : List Path) (target : Path) (chain : List Path) :
    Prop where
  begins : ∃ first ∈ chain.head?, ∃ source ∈ sources, source.components = first.components
  ends : ∃ last ∈ chain.getLast?, last.components = target.components
  follows : chain.IsChain fun importer imported => ∃ kind, graph.Imports importer imported kind

variable {sources : List Path} {target : Path}

/-- The files of the nodes on a way, in the order in which they import each other. -/
theorem Route.leads (proper : graph.Proper) {node : Nat} {earlier : List Nat}
    (route : Route graph (sources.filterMap graph.find?) (node :: earlier))
    (found : graph.find? target = some node) :
    Leads graph sources target ((node :: earlier).reverse.filterMap (graph.nodes[·]?)) := by
  generalize whole : node :: earlier = way at route
  induction route generalizing target node earlier with
  | start member =>
      obtain ⟨rfl, rfl⟩ := List.cons_eq_cons.mp whole
      obtain ⟨source, listed, known⟩ := List.mem_filterMap.mp member
      obtain ⟨file, held, same⟩ := graph.find_eq_some target found
      have single : [node].reverse.filterMap (graph.nodes[·]?) = [file] := by simp [held]
      rw [single]
      exact ⟨⟨file, rfl, source, listed, (graph.find_injective _ _ known found).trans same.symm⟩,
        ⟨file, rfl, same⟩, .singleton file⟩
  | @step before next rest route edge ih =>
      obtain ⟨rfl, rfl⟩ := List.cons_eq_cons.mp whole
      obtain ⟨file, held, same⟩ := graph.find_eq_some target found
      have importer := graph.find_getElem proper
        (List.getElem?_eq_getElem (hasEdge_lt proper edge).1)
      obtain ⟨⟨first, isFirst, sourced⟩, ⟨last, isLast, same'⟩, follows⟩ := ih importer rfl
      have longer : (node :: before :: rest).reverse.filterMap (graph.nodes[·]?) =
          (before :: rest).reverse.filterMap (graph.nodes[·]?) ++ [file] := by
        rw [List.reverse_cons, List.filterMap_append, List.filterMap_cons, held]
        rfl
      rw [longer]
      refine ⟨⟨first, by rw [List.head?_append, isFirst]; rfl, sourced⟩,
        ⟨file, by rw [List.getLast?_append]; rfl, same⟩, ?_⟩
      refine List.isChain_append.mpr ⟨follows, .singleton file, ?_⟩
      intro last' isLast' file' isFile
      rw [← Option.some.inj (isLast.symm.trans isLast'), ← Option.some.inj isFile]
      obtain ⟨kind, imports⟩ := (graph.imports_iff_hasEdge importer found).mpr edge
      exact ⟨kind, (graph.imports_congr kind same' same).mpr imports⟩

variable (sources) in
/-- The answer of a search for a chain is the answer of the search for the node of the target. -/
theorem shortestChain_answers (proper : graph.Proper) {goal : Nat}
    (found : graph.find? target = some goal) :
    ∃ answer, Answers graph (sources.filterMap graph.find?) goal answer ∧
      graph.shortestChain sources target =
        answer.map fun chain => chain.filterMap (graph.nodes[·]?) := by
  have inside : ∀ node ∈ sources.filterMap graph.find?, node < graph.nodes.length := by
    intro node member
    obtain ⟨source, -, known⟩ := List.mem_filterMap.mp member
    exact graph.find_lt source known
  obtain ⟨waiting, sound⟩ := Search.Sound.start graph (sources.filterMap graph.find?) goal
  refine ⟨_, searchFor_answers proper inside goal (graph.nodes.length + 1) [] waiting _ sound
    (Nat.lt_add_one _), ?_⟩
  simp only [shortestChain, found, Option.bind_eq_bind, Option.bind_some, Option.map_eq_bind,
    Option.bind_assoc]
  rfl

/-- A chain of imports is found exactly for the targets that a way from a source leads to. -/
theorem shortestChain_isSome (proper : graph.Proper) :
    (graph.shortestChain sources target).isSome = true ↔
      ∃ goal earlier, graph.find? target = some goal ∧
        Route graph (sources.filterMap graph.find?) (goal :: earlier) := by
  cases found : graph.find? target with
  | none => simp [shortestChain, found]
  | some goal =>
      obtain ⟨answer, answers, answered⟩ := shortestChain_answers sources proper found
      rw [answered]
      cases answer with
      | none => simpa [Answers] using answers
      | some chain =>
          obtain ⟨earlier, -, route, -⟩ := answers
          exact ⟨fun _ => ⟨goal, earlier, rfl, route⟩, fun _ => rfl⟩

theorem shortestChain_leads (proper : graph.Proper) {chain : List Path}
    (answered : graph.shortestChain sources target = some chain) :
    Leads graph sources target chain := by
  cases found : graph.find? target with
  | none => simp [shortestChain, found] at answered
  | some goal =>
      obtain ⟨answer, answers, same⟩ := shortestChain_answers sources proper found
      rw [answered] at same
      obtain ⟨nodes, rfl, rfl⟩ := Option.map_eq_some_iff.mp same.symm
      obtain ⟨earlier, rfl, route, -⟩ := answers
      exact route.leads proper found

end UiContract.ImportGraph
