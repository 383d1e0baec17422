import Mathlib.Data.List.Basic
import UiContract.Import.Extractor
import UiContract.Proofs.TreeOrder

/-!
The first place that could not be read, as `first_error_line` finds it. The search takes trees from a stack
and leaves out those that are not marked as broken. Where the marks are right, nothing that could not be read
is left out, so the search finds what a walk over all nodes in the order of the text finds first, and it
finds something in every tree that is marked.
-/
namespace UiContract

namespace Script.Tree

/-- A tree and all trees below it are marked as broken exactly where a node of theirs could not be
read. -/
def Marked (tree : Tree) : Prop :=
  ∀ node ∈ tree.nodes, node.broken = true ↔ ∃ part ∈ node.nodes, part.isFailure = true

/-- The node is the first one of the tree, in the order of the text, that could not be read. -/
def FirstFailure (tree node : Tree) : Prop :=
  ∃ before after, tree.nodes = before ++ node :: after ∧ node.isFailure = true ∧
    ∀ earlier ∈ before, earlier.isFailure = false

section Walk

variable {tree : Tree}

theorem Marked.below (marked : tree.Marked) (part : Tree) (member : part ∈ tree.children) :
    part.Marked :=
  fun node inside => marked node (child_nodes member inside)

theorem Marked.whole (marked : tree.Marked) (unbroken : tree.broken = false) :
    ∀ part ∈ tree.nodes, part.isFailure = false := by
  intro part member
  have none := mt (marked tree (self_mem_nodes tree)).mpr (by simp [unbroken])
  simpa using fun failed => none ⟨part, member, failed⟩

/-- The walk over a stack finds what comes first in its trees, one after the other. -/
theorem firstFailureOn_eq (stack : List Tree) (marked : ∀ tree ∈ stack, tree.Marked) :
    firstFailureOn stack = ((stack.flatMap nodes).find? isFailure).map line := by
  induction stack using firstFailureOn.induct with
  | case1 => rw [firstFailureOn, List.flatMap_nil, List.find?_nil, Option.map_none]
  | case2 label children rest failed =>
      have unable : (node label children).isFailure = true := failed
      rw [firstFailureOn, if_pos failed, List.flatMap_cons, nodes_eq, List.cons_append,
        List.find?_cons_of_pos unable]
      rfl
  | case3 label children rest whole broken ih =>
      have head := marked _ List.mem_cons_self
      have below : ∀ tree ∈ children ++ rest, tree.Marked := by
        intro tree member
        rcases List.mem_append.mp member with inside | later
        · exact head.below tree inside
        · exact marked tree (List.mem_cons_of_mem _ later)
      have able : ¬ (node label children).isFailure = true := whole
      rw [firstFailureOn, if_neg whole, if_pos broken, ih below, List.flatMap_cons, nodes_eq,
        List.cons_append, List.find?_cons_of_neg able, List.flatMap_append]
      rfl
  | case4 label children rest whole unbroken ih =>
      -- What is left out has nothing to be found.
      have unmarked : (node label children).broken = false := Bool.eq_false_iff.mpr unbroken
      have passed : (node label children).nodes.find? isFailure = none :=
        List.find?_eq_none.mpr fun part member => by
          simpa using (marked _ List.mem_cons_self).whole unmarked part member
      rw [firstFailureOn, if_neg whole, if_neg unbroken,
        ih fun tree later => marked tree (List.mem_cons_of_mem _ later), List.flatMap_cons,
        List.find?_append, passed, Option.none_or]

theorem firstFailureLine_eq (marked : tree.Marked) :
    tree.firstFailureLine = (tree.nodes.find? isFailure).map line := by
  rw [firstFailureLine, firstFailureOn_eq [tree] (by simpa using marked)]
  simp

/-- A line is found exactly where it is that of the first node that could not be read. -/
theorem firstFailureLine_iff (marked : tree.Marked) (line : Nat) :
    tree.firstFailureLine = some line ↔ ∃ node, tree.FirstFailure node ∧ node.line = line := by
  rw [firstFailureLine_eq marked, Option.map_eq_some_iff]
  refine exists_congr fun node => and_congr_left fun _ => ?_
  rw [List.find?_eq_some_iff_append]
  constructor
  · rintro ⟨failed, before, after, same, whole⟩
    exact ⟨before, after, same, failed, by simpa using whole⟩
  · rintro ⟨before, after, same, failed, whole⟩
    exact ⟨failed, before, after, same, by simpa using whole⟩

theorem firstFailureLine_eq_none_iff (marked : tree.Marked) :
    tree.firstFailureLine = none ↔ ∀ node ∈ tree.nodes, node.isFailure = false := by
  rw [firstFailureLine_eq marked, Option.map_eq_none_iff, List.find?_eq_none]
  simp

/-- In a tree that is marked as broken there is a first node that could not be read. -/
theorem Marked.exists_firstFailure (marked : tree.Marked) (broken : tree.broken = true) :
    ∃ node, tree.FirstFailure node ∧ tree.firstFailureLine = some node.line := by
  obtain ⟨part, member, failed⟩ := (marked tree (self_mem_nodes tree)).mp broken
  cases found : tree.firstFailureLine with
  | none =>
      rw [(firstFailureLine_eq_none_iff marked).mp found part member] at failed
      contradiction
  | some line =>
      obtain ⟨node, first, rfl⟩ := (firstFailureLine_iff marked line).mp found
      exact ⟨node, first, rfl⟩

end Walk

end Script.Tree

section Parsing

open Script

theorem marked_of_broken (language : Language) (text : List Char)
    (broken : (parse language text).broken = true) : (parse language text).Marked := by
  unfold parse at broken ⊢
  split at broken
  · contradiction
  · intro node member
    simp only [Tree.nodes, Tree.nodesAmong, List.append_nil, List.mem_cons, List.not_mem_nil,
      or_false] at member
    rcases member with rfl | rfl
    · exact ⟨fun _ => ⟨_, List.mem_cons_of_mem _ List.mem_cons_self, rfl⟩, fun _ => rfl⟩
    · exact ⟨fun _ => ⟨_, List.mem_cons_self, rfl⟩, fun _ => rfl⟩

theorem extract_error {resolver : Resolver} {files : FileTree} {importer : Path} {text : String}
    {error : SyntaxError} (failed : ImportEdge.extract resolver files importer text = .error error) :
    ∃ node, (parse (Language.ofPath importer) text.toList).FirstFailure node ∧
      error = ⟨node.line, Language.ofPath importer⟩ := by
  unfold ImportEdge.extract at failed
  dsimp only at failed
  split at failed
  · contradiction
  · split at failed
    · rename_i broken
      obtain ⟨node, first, found⟩ := (marked_of_broken _ _ broken).exists_firstFailure broken
      rw [found] at failed
      exact ⟨node, first, (Except.error.inj failed).symm⟩
    · contradiction

end Parsing

/-- In every tree whose marks are right the line that is found is that of the first node, in the order of the
whole tree, that could not be read, and none is found only where every node could be read. So a tree that is
marked as broken gives the line of such a node whatever the line in reserve is, and a text that cannot be
read is an error with that line. -/
theorem Script.Tree.firstFailureLine_exact :
    (∀ tree : Tree, tree.Marked →
      (∀ line, tree.firstFailureLine = some line ↔ ∃ node, tree.FirstFailure node ∧ node.line = line) ∧
      (tree.firstFailureLine = none ↔ ∀ node ∈ tree.nodes, node.isFailure = false) ∧
      (tree.broken = true → ∃ node, tree.FirstFailure node ∧
        ∀ reserve, tree.firstFailureLine.getD reserve = node.line)) ∧
    ∀ resolver files importer text error,
      ImportEdge.extract resolver files importer text = .error error →
        ∃ node, (Script.parse (Language.ofPath importer) text.toList).FirstFailure node ∧
          error = ⟨node.line, Language.ofPath importer⟩ := by
  refine ⟨fun tree marked => ⟨firstFailureLine_iff marked, firstFailureLine_eq_none_iff marked,
    fun broken => ?_⟩, fun resolver files importer text error failed => extract_error failed⟩
  obtain ⟨node, first, found⟩ := marked.exists_firstFailure broken
  exact ⟨node, first, fun reserve => by rw [found, Option.getD_some]⟩

namespace Script

def missingName : Tree := .node { kind := .missing, line := 4, broken := true } []

def passedOver : Tree :=
  .node { kind := .failure, line := 6, broken := true }
    [.node { kind := .failure, line := 7, broken := true } []]

def scarredTree : Tree :=
  .node { kind := .program, line := 1, broken := true }
    [.node { kind := .statement, line := 1 } [.node { kind := .identifier, line := 1 } []],
      .node { kind := .statement, line := 2, broken := true }
        [.node { kind := .expression, line := 2 } [.node { kind := .identifier, line := 3 } []],
          .node { kind := .expression, line := 3, broken := true } [missingName]],
      .node { kind := .statement, line := 5 } [],
      passedOver]

theorem Tree.firstFailureLine_exact_scarred : scarredTree.Marked ∧
    scarredTree.FirstFailure missingName ∧ scarredTree.firstFailureLine = some 4 ∧
    (∃ node, scarredTree.FirstFailure node ∧
      ∀ reserve, scarredTree.firstFailureLine.getD reserve = node.line) ∧
    ∃ error, ImportEdge.extract ⟨⟨"/repo"⟩, [], []⟩ {} ⟨"/repo/src/f.ts"⟩ "let a;\n\x7d" = .error error ∧
      ∃ node, (parse (Language.ofPath ⟨"/repo/src/f.ts"⟩) "let a;\n\x7d".toList).FirstFailure node ∧
        error = ⟨node.line, Language.ofPath ⟨"/repo/src/f.ts"⟩⟩ := by
  have marked : scarredTree.Marked := by
    unfold Tree.Marked
    decide
  have first : scarredTree.FirstFailure missingName :=
    ⟨scarredTree.nodes.take 7, .node { kind := .statement, line := 5 } [] :: passedOver.nodes, rfl, rfl,
      by decide⟩
  obtain ⟨trees, texts⟩ := Tree.firstFailureLine_exact
  obtain ⟨lines, -, reserves⟩ := trees scarredTree marked
  have failed : (ImportEdge.extract ⟨⟨"/repo"⟩, [], []⟩ {} ⟨"/repo/src/f.ts"⟩ "let a;\n\x7d").isOk =
      false := by decide +kernel
  refine ⟨marked, first, (lines 4).mpr ⟨missingName, first, rfl⟩, reserves rfl, ?_⟩
  cases read : ImportEdge.extract ⟨⟨"/repo"⟩, [], []⟩ {} ⟨"/repo/src/f.ts"⟩ "let a;\n\x7d" with
  | ok edges =>
      rw [read] at failed
      contradiction
  | error error => exact ⟨error, rfl, texts _ _ _ _ error read⟩

end Script

end UiContract
