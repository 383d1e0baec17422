import UiContract.Proofs.ReadingLines
import UiContract.Proofs.TreeOrder

/-!
What the goals of the grammar give. An expression begins where its reading begins; what goes on behind
a head begins where the head begins; a list that is being read goes on behind what was read of it. Here
this is said of each goal once, and shown of the parts of the grammar that every other module uses,
given that it holds of the goals that they read.
-/
namespace UiContract.Script

open Std.Do
open Script.Tree

set_option mvcgen.warning false

def Located (low high : Nat) (tree : Tree) : Prop :=
  low ≤ tree.line ∧ Spans tree.line high [tree]

def Wraps (low high : Nat) (head tree : Tree) : Prop :=
  tree.line = head.line ∧ (Spans head.line low [head] → Spans head.line high [tree])

def Carries (low high : Nat) (read : List Tree) (tree : Tree) : Prop :=
  ∀ bottom, Spans bottom low read → Spans bottom high [tree]

def Goal.Gives (low high : Nat) (tree : Tree) : Goal → Prop
  | .sequence _ | .expression _ | .cover _ | .operand _ | .markup => Located low high tree
  | .chain _ head | .operators _ head => Wraps low high head.tree tree
  | .typeQuery head => Wraps low high head tree
  | .statement | .type => Spans low high [tree]
  | .typeSuffix _ head => Carries low high [head] tree
  | .typeOperators head => Carries low high head.children tree
  | .parenthesisItems items | .arrayItems items | .objectItems items =>
      Carries low high items.read.reverse tree
  | .statements _ read | .switchCases read | .declarators _ read | .importNames read
  | .exportNames read | .enumMembers read | .decorators read | .classMembers read
  | .superclasses read | .argumentItems read | .templateParts read | .markupChildren read
  | .markupAttributes read | .typeList read | .typeParameters read | .typeMembers read
  | .tupleMembers read | .typeTemplate read => Carries low high read.reverse tree

section Spans

variable {low high bottom top middle start : Nat} {trees others : List Tree}
  {tree head : Tree}

theorem Carries.fresh (carries : Carries low high trees tree) (read : Spans low low trees) :
    Spans low high [tree] :=
  carries low read

theorem Carries.behind (carries : Carries low high trees tree) (read : Spans bottom low trees)
    (le : high ≤ top) : Spans bottom top [tree] :=
  (carries bottom read).widen le_rfl le

theorem Spans.follow (first : Spans start middle [tree]) (le : low ≤ start)
    (rest : Spans middle high trees) : Spans low high (tree :: trees) :=
  (first.widen le le_rfl).cons rest le_rfl

theorem Spans.join (front : Spans start middle trees) (le : low ≤ start)
    (back : Spans middle high others) : Spans low high (trees ++ others) :=
  (front.widen le le_rfl).append back le_rfl

theorem Spans.above_silent {kind : Kind} (line : Nat) (silent : kind.declares = false)
    (complete : (above kind line trees).Complete) (spans : Spans low high trees) :
    Spans low high [above kind line trees] :=
  spans.node complete silent

theorem Spans.cons_silent {kind : Kind} (line : Nat) (silent : kind.declares = false)
    (complete : (above kind line trees).Complete) (spans : Spans low high (trees ++ others)) :
    Spans low high (above kind line trees :: others) :=
  have ⟨_, front, back⟩ := spans.split
  (front.above_silent line silent complete).cons back le_rfl

theorem Spans.cons_declaring {kind : Kind} {line : Nat} (le : low ≤ line)
    (complete : (above kind line trees).Complete) (spans : Spans line high (trees ++ others)) :
    Spans low high (above kind line trees :: others) :=
  have ⟨_, front, back⟩ := spans.split
  ((Spans.declaration (above kind line trees) front complete).widen le le_rfl).cons back le_rfl

theorem Spans.cons_export {line : Nat} (le : low ≤ line)
    (spans : Spans line high (trees ++ others)) :
    Spans low high (above .exportStatement line trees :: others) :=
  spans.cons_declaring le trivial

theorem Spans.cons_leaf {kind : Kind} (line : Nat) (text : List Char) (plain : kind.isPlain = true)
    (spans : Spans low high trees) : Spans low high (leaf kind line text :: trees) := by
  have self : (leaf kind line text).Complete := complete_of_isPlain plain
  refine Spans.cons (.node (.nil le_rfl) self ?_) spans le_rfl
  cases kind <;> first | rfl | contradiction

theorem Spans.cons_literal (line : Nat) (text : List Char) (literal : IsLiteral text)
    (spans : Spans low high trees) : Spans low high (leaf .string line text :: trees) :=
  Spans.cons (.node (.nil le_rfl) literal rfl) spans le_rfl

theorem Spans.inRole (role : Role) (spans : Spans low high [tree]) :
    Spans low high [tree.inRole role] where
  ascending := by
    have whole := spans.ascending
    rw [List.flatMap_singleton, marks_eq] at whole ⊢
    simpa using whole
  complete other member node below := by
    rw [List.mem_singleton.mp member, nodes_eq, inRole_children] at below
    have all := spans.complete tree List.mem_cons_self
    rw [nodes_eq] at all
    rcases List.mem_cons.mp below with rfl | inside
    · have self := all tree List.mem_cons_self
      unfold Complete part? at self ⊢
      simpa using self
    · exact all node (List.mem_cons_of_mem _ inside)

/-- A call with its arguments, and with type arguments between them where it has some. -/
theorem Spans.above_call {line : Nat} {given : Tree} (le : low ≤ line)
    (spans : Spans line high (head :: (trees ++ [given]))) :
    Spans low high [above .call line
      ([head.inRole .function] ++ trees ++ [given.inRole .arguments])] := by
  have all : Spans line high ([head] ++ (trees ++ [given])) := spans
  obtain ⟨start, first, behind⟩ := all.split
  obtain ⟨middle, types, last⟩ := behind.split
  have parts := ((first.inRole .function).append types le_rfl).append (last.inRole .arguments) le_rfl
  exact Spans.cons_declaring le trivial (by simpa using parts)

theorem Spans.cons_call {line : Nat} {given : Tree} (le : low ≤ line)
    (spans : Spans line high (head :: given :: others)) : Spans low high
      (above .call line [head.inRole .function, given.inRole .arguments] :: others) := by
  have all : Spans line high ([head, given] ++ others) := spans
  obtain ⟨middle, parts, behind⟩ := all.split
  have called : Spans line middle (head :: ([] ++ [given])) := parts
  exact (Spans.above_call le called).cons behind le_rfl

theorem Spans.typed_call {line : Nat} {types given : Tree} (le : low ≤ line)
    (spans : Spans line high [head, types, given]) : Spans low high
      [above .call line [head.inRole .function, types, given.inRole .arguments]] := by
  have parts : Spans line high (head :: ([types] ++ [given])) := spans
  exact Spans.above_call le parts

end Spans

theorem part_isSome (tree : Tree) {child : Tree} {role : Role} (member : child ∈ tree.children)
    (same : child.label.role = role) : (tree.part? role).isSome = true := by
  unfold part?
  rw [List.find?_isSome]
  exact ⟨child, member, beq_iff_eq.mpr same⟩

grind_pattern Carries.fresh => Carries low high trees tree
grind_pattern Carries.behind => Carries low high trees tree, Spans bottom top [tree]
grind_pattern Spans.nil => Spans low high []
grind_pattern Spans.follow => Spans low high (tree :: trees), Spans start middle [tree]
grind_pattern Spans.join => Spans low high (trees ++ others), Spans start middle trees
grind_pattern complete_of_isPlain => node.Complete
grind_pattern Spans.above_silent => Spans low high [above kind line trees]
grind_pattern Spans.cons_silent => Spans low high (above kind line trees :: others)
grind_pattern Spans.cons_call => Spans low high
  (above .call line [head.inRole .function, given.inRole .arguments] :: others)
grind_pattern Spans.typed_call => Spans low high
  [above .call line [head.inRole .function, types, given.inRole .arguments]]
grind_pattern Spans.above_call => Spans low high [above .call line
  ([head.inRole .function] ++ trees ++ [given.inRole .arguments])]
grind_pattern Spans.cons_export => Spans low high (above .exportStatement line trees :: others)
grind_pattern Spans.cons_leaf => Spans low high (leaf kind line text :: trees)
grind_pattern Spans.cons_literal => Spans low high (leaf .string line text :: trees)
grind_pattern Spans.inRole => Spans low high [tree.inRole role]
grind_pattern Spans.children => Spans low high [tree], tree.children
grind_pattern Spans.widen => Spans low high trees, Spans bottom top trees

attribute [grind =] Located Wraps Carries Goal.Gives Kind.isPlain Kind.declares Word.leaf
  above_children above_kind above_line leaf_kind leaf_line inRole_kind inRole_line inRole_role

@[spec] theorem propertyModifiers_moves (words : List String) (count low : Nat) :
    ⦃fun cursor => ⌜low ≤ cursor.line⌝⦄ propertyModifiers words count
    ⦃⇓? _ cursor => ⌜low ≤ cursor.line⌝⦄ := by
  induction count generalizing low with
  | zero => mvcgen [propertyModifiers]
  | succ count ih => mvcgen [propertyModifiers, ih] with grind -linarith

class Keeps (parse : Grammar) : Prop where
  gives : ∀ goal low, ⦃fun cursor => ⌜low ≤ cursor.line⌝⦄ parse goal
    ⦃⇓? parsed cursor => ⌜low ≤ cursor.line ∧ goal.Gives low cursor.line parsed.tree⌝⦄

section Parts

variable (language : Language) (parse : Grammar) [Keeps parse] (low : Nat)

@[spec] theorem goal_gives (goal : Goal) : ⦃fun cursor => ⌜low ≤ cursor.line⌝⦄ parse goal
    ⦃⇓? parsed cursor => ⌜low ≤ cursor.line ∧ goal.Gives low cursor.line parsed.tree⌝⦄ :=
  Keeps.gives goal low

@[spec] theorem block_spans : ⦃fun cursor => ⌜low ≤ cursor.line⌝⦄ block parse
    ⦃⇓? tree cursor => ⌜low ≤ cursor.line ∧ Spans low cursor.line [tree]⌝⦄ := by
  mvcgen [block] with grind -linarith

@[spec] theorem condition_spans : ⦃fun cursor => ⌜low ≤ cursor.line⌝⦄ condition language parse
    ⦃⇓? tree cursor => ⌜low ≤ cursor.line ∧ Spans low cursor.line [tree]⌝⦄ := by
  mvcgen [condition] with grind -linarith

@[spec] theorem typeBehindColon?_spans :
    ⦃fun cursor => ⌜low ≤ cursor.line⌝⦄ typeBehindColon? language parse
    ⦃⇓? trees cursor => ⌜low ≤ cursor.line ∧ Spans low cursor.line trees⌝⦄ := by
  mvcgen [typeBehindColon?] with grind -linarith

@[spec] theorem resultType_spans : ⦃fun cursor => ⌜low ≤ cursor.line⌝⦄ resultType parse
    ⦃⇓? tree cursor => ⌜low ≤ cursor.line ∧ Spans low cursor.line [tree]⌝⦄ := by
  mvcgen [resultType] with grind -linarith

@[spec] theorem typeParameters?_spans :
    ⦃fun cursor => ⌜low ≤ cursor.line⌝⦄ typeParameters? language parse
    ⦃⇓? trees cursor => ⌜low ≤ cursor.line ∧ Spans low cursor.line trees⌝⦄ := by
  mvcgen [typeParameters?] with grind -linarith

@[spec] theorem parameters_spans : ⦃fun cursor => ⌜low ≤ cursor.line⌝⦄ parameters parse
    ⦃⇓? tree cursor => ⌜low ≤ cursor.line ∧ Spans low cursor.line [tree]⌝⦄ := by
  mvcgen [parameters] with grind -linarith

@[spec] theorem signature_spans : ⦃fun cursor => ⌜low ≤ cursor.line⌝⦄ signature language parse
    ⦃⇓? trees cursor => ⌜low ≤ cursor.line ∧ Spans low cursor.line trees⌝⦄ := by
  mvcgen [signature] with grind -linarith

@[spec] theorem propertyName_spans : ⦃fun cursor => ⌜low ≤ cursor.line⌝⦄ propertyName parse
    ⦃⇓? read cursor => ⌜low ≤ cursor.line ∧ Spans low cursor.line [read.1]⌝⦄ := by
  mvcgen [propertyName] with grind -linarith

end Parts

end UiContract.Script
