import UiContract.Import.Edge
import UiContract.SortedMap

/-!
The graph of followed imports. A file has one node however its path is spelled (`add_file`), two files have
at most one edge in each direction, and the first kind of an edge stays (`add_edge`). `shortest_chain` finds
a shortest way from a list of files to another file, newest imports first: it keeps for each node the node
that it was reached from, and `unwind` goes back along these.
-/
namespace UiContract

structure GraphEdge where
  importer : Nat
  imported : Nat
  kind : ImportKind
deriving DecidableEq, Repr

structure ImportGraph where
  nodes : List Path := []
  edges : List GraphEdge := []
deriving Repr

namespace ImportGraph

def find? (graph : ImportGraph) (path : Path) : Option Nat :=
  let components := path.components
  graph.nodes.findIdx? fun node => node.components == components

def addFile (graph : ImportGraph) (path : Path) : ImportGraph × Nat :=
  match graph.find? path with
  | some index => (graph, index)
  | none => ({ graph with nodes := graph.nodes ++ [path] }, graph.nodes.length)

def hasEdge (graph : ImportGraph) (importer imported : Nat) : Bool :=
  graph.edges.any fun edge => edge.importer == importer && edge.imported == imported

def addEdge (graph : ImportGraph) (importer : Nat) (path : Path) (kind : ImportKind) :
    ImportGraph :=
  let (graph, imported) := graph.addFile path
  if graph.hasEdge importer imported then graph
  else { graph with edges := graph.edges ++ [⟨importer, imported, kind⟩] }

def importedBy (graph : ImportGraph) (importer : Nat) : List Nat :=
  (graph.edges.filter fun edge => edge.importer == importer).reverse.map GraphEdge.imported

/-- A search by breadth: the nodes that wait, and the nodes that were reached, each with the node that it
was reached from, if from any. -/
structure Search where
  queue : List Nat := []
  parent : SortedMap Nat (Option Nat) := {}

def Search.offer (from? : Option Nat) (search : Search) (node : Nat) : Search :=
  if search.parent.contains node then search
  else ⟨search.queue ++ [node], search.parent.insert node from?⟩

/-- Searches for a node and gives the search that has come to it. Every node waits once at most, so the
number of nodes bounds the number of steps. -/
def searchFor (graph : ImportGraph) (goal : Nat) : Nat → Search → Option Search
  | 0, _ => none
  | steps + 1, search =>
      match search.queue with
      | [] => none
      | node :: rest =>
          if node == goal then some search
          else searchFor graph goal steps <|
            (graph.importedBy node).foldl (Search.offer (some node)) { search with queue := rest }

/-- The nodes from a node back to where the search began, that one first. The number bounds how many
there are. -/
def unwind (parent : SortedMap Nat (Option Nat)) : Nat → Nat → List Nat
  | 0, _ => []
  | steps + 1, node =>
      match (parent.find? node).join with
      | some before => unwind parent steps before ++ [node]
      | none => [node]

def shortestChain (graph : ImportGraph) (sources : List Path) (target : Path) :
    Option (List Path) := do
  let goal ← graph.find? target
  let start := (sources.filterMap graph.find?).foldl (Search.offer none) {}
  let search ← graph.searchFor goal (graph.nodes.length + 1) start
  return (unwind search.parent graph.nodes.length goal).filterMap fun node => graph.nodes[node]?

end ImportGraph

end UiContract
