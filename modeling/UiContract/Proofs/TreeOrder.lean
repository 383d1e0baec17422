import Mathlib.Data.List.Sort
import UiContract.Script.Grammar

/-!
The order of a syntax tree. Its nodes stand in the order of the text, a node before its parts. What
imports are told by are the nodes that can name another module, so of the lines only theirs have to
ascend; the node above a list may have the line on which the list ends. `Spans low high trees` says
that those lines ascend from `low` to `high` and that every node has the parts its kind promises.
-/
namespace UiContract.Script

def Kind.declares : Kind → Bool
  | .importStatement | .exportStatement | .call => true
  | .program | .importClause | .namespaceImport | .namedImports | .importSpecifier
  | .importRequireClause | .exportClause | .exportSpecifier | .namespaceExport | .arguments
  | .importWord | .identifier | .string | .comment | .word | .statement | .expression
  | .typePosition | .failure | .missing => false

def Kind.isPlain : Kind → Bool
  | .importStatement | .exportStatement | .call | .importSpecifier | .exportSpecifier
  | .namespaceImport | .namespaceExport | .importRequireClause | .string => false
  | .program | .importClause | .namedImports | .exportClause | .arguments | .importWord
  | .identifier | .comment | .word | .statement | .expression | .typePosition | .failure
  | .missing => true

def IsLiteral (text : List Char) : Prop :=
  ∃ quote inside, (quote = '"' ∨ quote = '\'') ∧ text = quote :: (inside ++ [quote])

namespace Tree

/-- What holds of a tree as soon as it holds of its children holds of every tree. -/
theorem childrenInduction {motive : Tree → Prop}
    (step : ∀ tree, (∀ child ∈ tree.children, motive child) → motive tree) : ∀ tree, motive tree
  | .node label children => step (.node label children) fun child (_ : child ∈ children) =>
      childrenInduction step child
decreasing_by
  have smaller := List.sizeOf_lt_of_mem ‹child ∈ children›
  rw [Tree.node.sizeOf_spec]
  omega

mutual

def nodes : Tree → List Tree
  | .node label children => .node label children :: nodesAmong children

def nodesAmong : List Tree → List Tree
  | [] => []
  | tree :: rest => nodes tree ++ nodesAmong rest

end

theorem nodesAmong_eq (trees : List Tree) : nodesAmong trees = trees.flatMap nodes := by
  induction trees with
  | nil => rfl
  | cons tree rest ih => rw [nodesAmong, ih, List.flatMap_cons]

theorem nodes_eq (tree : Tree) : tree.nodes = tree :: tree.children.flatMap nodes := by
  obtain ⟨label, children⟩ := tree
  rw [nodes, nodesAmong_eq]
  rfl

theorem self_mem_nodes (tree : Tree) : tree ∈ tree.nodes := by
  rw [nodes_eq]
  exact List.mem_cons_self

theorem child_nodes {tree child : Tree} (member : child ∈ tree.children) :
    child.nodes ⊆ tree.nodes := by
  intro node below
  rw [nodes_eq]
  exact List.mem_cons_of_mem _ (List.mem_flatMap.mpr ⟨child, member, below⟩)

theorem nodes_trans (tree node : Tree) (member : node ∈ tree.nodes) : node.nodes ⊆ tree.nodes := by
  induction tree using childrenInduction with
  | step tree ih =>
      rw [nodes_eq] at member
      rcases List.mem_cons.mp member with rfl | below
      · exact List.Subset.refl _
      · obtain ⟨child, part, inside⟩ := List.mem_flatMap.mp below
        exact List.Subset.trans (ih child part inside) (child_nodes part)

def marks (tree : Tree) : List Nat :=
  (tree.nodes.filter fun node => node.kind.declares).map Tree.line

theorem marks_eq (tree : Tree) : tree.marks =
    (if tree.kind.declares then [tree.line] else []) ++ tree.children.flatMap marks := by
  unfold marks
  rw [nodes_eq, List.filter_cons, List.filter_flatMap]
  split <;> simp [List.map_flatMap]

/-- A node has what its kind promises: a declaration names its module, a name in braces has what it
names, a name for a whole module is there, and a string literal is one. -/
def Complete (node : Tree) : Prop :=
  match node.kind with
  | .importStatement => (node.part? .source).isSome ∨
      ∃ clause ∈ node.children, clause.kind = .importRequireClause
  | .importRequireClause => (node.part? .source).isSome ∧
      ∃ name ∈ node.children, name.kind = .identifier
  | .importSpecifier | .exportSpecifier => (node.part? .name).isSome
  | .namespaceImport => ∃ name ∈ node.children, name.kind = .identifier
  | .namespaceExport => ∃ name ∈ node.children, name.isNamed = true
  | .string => IsLiteral node.text
  | _ => True

/-- What the grammar says of a tree without errors: every node has what its kind promises, and the lines of the
nodes that can name another module ascend in the order of the text. -/
structure Grammatical (tree : Tree) : Prop where
  complete : ∀ node ∈ tree.nodes, node.Complete
  ascending : tree.marks.Pairwise (· ≤ ·)

theorem complete_of_isPlain {node : Tree} (plain : node.kind.isPlain = true) : node.Complete := by
  unfold Complete
  revert plain
  cases node.kind <;> simp [Kind.isPlain]

@[simp] theorem inRole_children (role : Role) (tree : Tree) :
    (tree.inRole role).children = tree.children := by
  cases tree; rfl

@[simp] theorem inRole_kind (role : Role) (tree : Tree) : (tree.inRole role).kind = tree.kind := by
  cases tree; rfl

@[simp] theorem inRole_line (role : Role) (tree : Tree) : (tree.inRole role).line = tree.line := by
  cases tree; rfl

@[simp] theorem inRole_role (role : Role) (tree : Tree) : (tree.inRole role).label.role = role := by
  cases tree; rfl

@[simp] theorem inRole_text (role : Role) (tree : Tree) : (tree.inRole role).text = tree.text := by
  cases tree; rfl

end Tree

@[simp] theorem above_kind (kind : Kind) (line : Nat) (children : List Tree) :
    (above kind line children).kind = kind := rfl

@[simp] theorem above_line (kind : Kind) (line : Nat) (children : List Tree) :
    (above kind line children).line = line := rfl

@[simp] theorem above_children (kind : Kind) (line : Nat) (children : List Tree) :
    (above kind line children).children = children := rfl

@[simp] theorem leaf_kind (kind : Kind) (line : Nat) (text : List Char) :
    (leaf kind line text).kind = kind := rfl

@[simp] theorem leaf_line (kind : Kind) (line : Nat) (text : List Char) :
    (leaf kind line text).line = line := rfl

@[simp] theorem leaf_children (kind : Kind) (line : Nat) (text : List Char) :
    (leaf kind line text).children = [] := rfl

open Script.Tree

/-- The trees stand between two lines: the lines of their nodes that can name another module ascend
from one to the other, and every node is complete. -/
structure Spans (low high : Nat) (trees : List Tree) : Prop where
  ascending : (low :: trees.flatMap marks ++ [high]).Pairwise (· ≤ ·)
  complete : ∀ tree ∈ trees, ∀ node ∈ tree.nodes, node.Complete

namespace Spans

variable {low high : Nat} {trees : List Tree}

theorem le (spans : Spans low high trees) : low ≤ high := by
  have all := spans.ascending
  rw [List.cons_append, List.pairwise_cons] at all
  exact all.1 high (List.mem_append_right _ List.mem_cons_self)

theorem marks_ascend {tree : Tree} (spans : Spans low high [tree]) :
    tree.marks.Pairwise (· ≤ ·) := by
  refine spans.ascending.sublist ?_
  simp

theorem grammatical {tree : Tree} (spans : Spans low high [tree]) : tree.Grammatical :=
  ⟨spans.complete tree List.mem_cons_self, spans.marks_ascend⟩

theorem nil (le : low ≤ high) : Spans low high [] where
  ascending := by simpa using le
  complete := nofun

theorem append {middle start : Nat} {others : List Tree} (front : Spans low middle trees)
    (back : Spans start high others) (le : middle ≤ start) : Spans low high (trees ++ others) where
  ascending := by
    have first := front.ascending
    have second := back.ascending
    have bounds := front.le
    simp only [List.cons_append, List.pairwise_cons, List.pairwise_append, List.mem_append,
      List.mem_singleton, List.flatMap_append] at first second ⊢
    grind
  complete tree member := (List.mem_append.mp member).elim (front.complete tree) (back.complete tree)

theorem widen {bottom top : Nat} (spans : Spans low high trees) (below : bottom ≤ low)
    (beyond : high ≤ top) : Spans bottom top trees := by
  have wide := ((nil below).append spans le_rfl).append (nil beyond) le_rfl
  simpa using wide

theorem cons {middle start : Nat} {tree : Tree} (first : Spans low middle [tree])
    (rest : Spans start high trees) (le : middle ≤ start) : Spans low high (tree :: trees) :=
  first.append rest le

/-- Trees that stand one after the other can be taken apart on a line between them. -/
theorem split {others : List Tree} (spans : Spans low high (trees ++ others)) :
    ∃ middle, Spans low middle trees ∧ Spans middle high others := by
  have whole := spans.ascending
  rw [List.flatMap_append] at whole
  have front := fun tree member => spans.complete tree (List.mem_append_left others member)
  have back := fun tree member => spans.complete tree (List.mem_append_right trees member)
  -- The first line of the second part is between them.
  cases lines : others.flatMap marks with
  | nil =>
      rw [lines, List.append_nil] at whole
      exact ⟨high, ⟨whole, front⟩, ⟨by simp [lines], back⟩⟩
  | cons line rest =>
      rw [lines] at whole
      simp only [List.cons_append, List.pairwise_cons, List.pairwise_append, List.mem_append,
        List.mem_cons] at whole
      refine ⟨line, ⟨?_, front⟩, ⟨?_, back⟩⟩
      · simp only [List.cons_append, List.pairwise_cons, List.pairwise_append, List.mem_append]
        grind
      · simp only [lines, List.cons_append, List.pairwise_cons, List.pairwise_append,
          List.mem_append, List.mem_cons]
        grind

theorem node {tree : Tree} (spans : Spans low high tree.children) (complete : tree.Complete)
    (silent : tree.kind.declares = false) : Spans low high [tree] where
  ascending := by
    rw [List.flatMap_singleton, marks_eq, silent]
    exact spans.ascending
  complete other member node held := by
    rw [List.mem_singleton.mp member, nodes_eq] at held
    rcases List.mem_cons.mp held with rfl | inside
    · exact complete
    · obtain ⟨child, part, below⟩ := List.mem_flatMap.mp inside
      exact spans.complete child part node below

theorem declaration (tree : Tree) (spans : Spans tree.line high tree.children)
    (complete : tree.Complete) : Spans tree.line high [tree] where
  ascending := by
    have inner := spans.ascending
    rw [List.flatMap_singleton, marks_eq]
    simp only [List.cons_append, List.pairwise_cons, List.mem_append, List.pairwise_append] at inner ⊢
    grind
  complete other member node held := by
    rw [List.mem_singleton.mp member, nodes_eq] at held
    rcases List.mem_cons.mp held with rfl | inside
    · exact complete
    · obtain ⟨child, part, below⟩ := List.mem_flatMap.mp inside
      exact spans.complete child part node below

theorem children {tree : Tree} (spans : Spans low high [tree]) : Spans low high tree.children where
  ascending := by
    have whole := spans.ascending
    rw [List.flatMap_singleton, marks_eq] at whole
    refine whole.sublist ?_
    simp
  complete child part node below := by
    refine spans.complete tree List.mem_cons_self node ?_
    rw [nodes_eq]
    exact List.mem_cons_of_mem _ (List.mem_flatMap.mpr ⟨child, part, below⟩)

end Spans

end UiContract.Script
