import UiContract.Graph.ImportGraph
import UiContract.Graph.SourceFile

/-!
The files that are imported, directly or not, from the entries: the loop of `build`. The walk takes the file
that was found last first and visits no file twice; an import is followed where it is no mere type and leads
to a file below the source root (`is_followable`). A file that cannot be read counts as visited and has no
imports.
-/
namespace UiContract

structure ReachableSet where
  root : Path
  entries : List Path
  files : SortedMap Path SourceFile
  graph : ImportGraph

inductive ReachabilityError where
  | missingEntry (path : Path)
  | noEntries
deriving DecidableEq, Repr

def ReachabilityError.message : ReachabilityError → String
  | missingEntry path => "entry file not found: " ++ path.text
  | noEntries => "no entry files configured"

namespace Reachability

/-- A walk over imports: the files that wait, the one to be visited next first, the files that were
visited, and the imports that were followed. -/
structure Walk where
  waiting : List Path
  files : SortedMap Path SourceFile := {}
  graph : ImportGraph := {}

def followed? (sourceRoot : Path) (edge : ImportEdge) : Option Path :=
  match edge.resolved with
  | some target => if edge.isFollowable && target.startsWith sourceRoot then some target else none
  | none => none

/-- Follows one import of the file with the given node. A file that was visited need not wait again. -/
def Walk.follow (sourceRoot : Path) (importer : Nat) (walk : Walk) (edge : ImportEdge) : Walk :=
  match followed? sourceRoot edge with
  | none => walk
  | some target =>
      { walk with
        waiting := if walk.files.contains target then walk.waiting else target :: walk.waiting,
        graph := walk.graph.addEdge importer target edge.kind }

def Walk.visit (resolver : Resolver) (tree : FileTree) (sourceRoot : Path) (walk : Walk)
    (path : Path) : Walk :=
  let (file, _) := (SourceFile.load tree resolver.root path).readImports resolver tree
  let (graph, node) := walk.graph.addFile path
  let walk := file.knownImports.foldl (Walk.follow sourceRoot node) { walk with graph }
  { walk with files := walk.files.insert path file }

def Walk.run (resolver : Resolver) (tree : FileTree) (sourceRoot : Path) : Nat → Walk → Walk
  | 0, walk => walk
  | count + 1, walk =>
      match walk.waiting.dropWhile walk.files.contains with
      | [] => { walk with waiting := [] }
      | path :: rest =>
          Walk.run resolver tree sourceRoot count
            (Walk.visit resolver tree sourceRoot { walk with waiting := rest } path)

/-- A bound on the number of paths that lead to files: there are no more texts that are short enough. -/
def pathBound : Nat := FileTree.textCount FileTree.pathLimit

def entryPath (resolver : Resolver) (entry : String) : Path :=
  (resolver.root.join entry).normalize

def entryPaths (resolver : Resolver) (tree : FileTree) (entries : List String) :
    Except ReachabilityError (List Path) :=
  entries.mapM fun entry =>
    let path := entryPath resolver entry
    if tree.isFile path then .ok path else .error (.missingEntry path)

end Reachability

namespace ReachableSet

open Reachability

def build (resolver : Resolver) (tree : FileTree) (sourceRoot : String) (entries : List String) :
    Except ReachabilityError ReachableSet := do
  if entries.isEmpty then throw .noEntries
  let paths ← entryPaths resolver tree entries
  let walk := Walk.run resolver tree (resolver.root.configured sourceRoot)
    pathBound { waiting := paths }
  return { root := resolver.root, entries := paths, files := walk.files, graph := walk.graph }

def size (reached : ReachableSet) : Nat := reached.files.size

def contains (reached : ReachableSet) (path : Path) : Bool := reached.files.contains path

def relativePaths (reached : ReachableSet) : List String :=
  sortedDistinct (reached.files.values.map SourceFile.relativePath)

def failures (reached : ReachableSet) : List (SourceFile × String) :=
  reached.files.values.filterMap fun file => file.failure?.map fun reason => (file, reason)

def chainTo (reached : ReachableSet) (target : Path) : Option (List Path) :=
  reached.graph.shortestChain reached.entries target

def describe (reached : ReachableSet) : String :=
  "ReachableSet \x7b entries: " ++ Text.quotedList (reached.entries.map Path.text) ++ ", files: " ++
    toString reached.size ++ ", edges: " ++ toString reached.graph.edges.length ++ " \x7d"

end ReachableSet

end UiContract
