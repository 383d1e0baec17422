import UiContract.Proofs.GrammarSpans
import UiContract.Script.Types

/-!
What the readings of types give. A type stands between the lines on which its reading begins and ends,
whatever the line of its node is.
-/
namespace UiContract.Script

open Std.Do
open Script.Tree

set_option mvcgen.warning false

attribute [grind =] typeNode

theorem Spans.query_call {low middle high line : Nat} {head : Tree} {given : List Tree}
    (le : low ≤ head.line) (spans : Spans head.line middle [head]) (behind : Spans middle high given) :
    Spans low high [above .call head.line
      [head.inRole .function, (above .arguments line given).inRole .arguments]] :=
  Spans.cons_call le (spans.cons (behind.above_silent line rfl trivial) le_rfl)

grind_pattern Spans.query_call => Spans low high [above .call head.line
  [head.inRole .function, (above .arguments line given).inRole .arguments]], Spans head.line middle [head]

section Types

variable (language : Language) (parse : Grammar) [Keeps parse] (low : Nat)

theorem typeGoal_gives :
    ⦃fun cursor => ⌜low ≤ cursor.line⌝⦄ typeGoal parse
    ⦃⇓? parsed cursor => ⌜low ≤ cursor.line ∧
      (Goal.type).Gives low cursor.line parsed.tree⌝⦄ := by
  mvcgen [typeGoal] with grind -linarith

theorem typeTemplateParts_gives (read : List Tree) :
    ⦃fun cursor => ⌜low ≤ cursor.line⌝⦄ typeTemplateParts parse read
    ⦃⇓? parsed cursor => ⌜low ≤ cursor.line ∧
      (Goal.typeTemplate read).Gives low cursor.line parsed.tree⌝⦄ := by
  mvcgen [typeTemplateParts] with grind -linarith

@[spec] theorem namedType_spans (line : Nat) (arguments : Bool) (count : Nat) :
    ⦃fun cursor => ⌜low ≤ cursor.line⌝⦄ namedType parse line arguments count
    ⦃⇓? tree cursor => ⌜low ≤ cursor.line ∧ Spans low cursor.line [tree]⌝⦄ := by
  induction count generalizing low with
  | zero =>
      mvcgen [namedType]
      grind -linarith
  | succ count ih => mvcgen [namedType, ih] with grind -linarith

@[spec] theorem importType_spans (word : Word) :
    ⦃fun cursor => ⌜word.line ≤ cursor.line⌝⦄ importType parse word
    ⦃⇓? tree cursor => ⌜word.line ≤ cursor.line ∧ Spans word.line cursor.line [tree]⌝⦄ := by
  mvcgen [importType] with grind -linarith

theorem typeQuery_gives (head : Tree) :
    ⦃fun cursor => ⌜low ≤ cursor.line⌝⦄ typeQuery parse head
    ⦃⇓? parsed cursor => ⌜low ≤ cursor.line ∧
      (Goal.typeQuery head).Gives low cursor.line parsed.tree⌝⦄ := by
  mvcgen [typeQuery] with grind -linarith

@[spec] theorem functionType_spans (line : Nat) :
    ⦃fun cursor => ⌜low ≤ cursor.line⌝⦄ functionType language parse line
    ⦃⇓? tree cursor => ⌜low ≤ cursor.line ∧ Spans low cursor.line [tree]⌝⦄ := by
  mvcgen [functionType] with grind -linarith

@[spec] theorem wordType_spans :
    ⦃fun cursor => ⌜low ≤ cursor.line⌝⦄ wordType language parse
    ⦃⇓? parsed cursor => ⌜low ≤ cursor.line ∧ Spans low cursor.line [parsed.tree]⌝⦄ := by
  unfold wordType optional
  generalize String.toList = letters
  mvcgen with grind -linarith

@[spec] theorem typeBeginning_spans :
    ⦃fun cursor => ⌜low ≤ cursor.line⌝⦄ typeBeginning language parse
    ⦃⇓? parsed cursor => ⌜low ≤ cursor.line ∧ Spans low cursor.line [parsed.tree]⌝⦄ := by
  mvcgen [typeBeginning] with grind -linarith

theorem typeSuffix_gives (fresh : Bool) (head : Tree) :
    ⦃fun cursor => ⌜low ≤ cursor.line⌝⦄ typeSuffix language parse fresh head
    ⦃⇓? parsed cursor => ⌜low ≤ cursor.line ∧
      (Goal.typeSuffix fresh head).Gives low cursor.line parsed.tree⌝⦄ := by
  mvcgen [typeSuffix] with grind -linarith [Spans.le]

theorem typeOperators_gives (head : Tree) :
    ⦃fun cursor => ⌜low ≤ cursor.line⌝⦄ typeOperators parse head
    ⦃⇓? parsed cursor => ⌜low ≤ cursor.line ∧
      (Goal.typeOperators head).Gives low cursor.line parsed.tree⌝⦄ := by
  mvcgen [typeOperators] with grind -linarith

theorem typeList_gives (read : List Tree) :
    ⦃fun cursor => ⌜low ≤ cursor.line⌝⦄ typeList parse read
    ⦃⇓? parsed cursor => ⌜low ≤ cursor.line ∧
      (Goal.typeList read).Gives low cursor.line parsed.tree⌝⦄ := by
  mvcgen [typeList] with grind -linarith

theorem typeParameterList_gives (read : List Tree) :
    ⦃fun cursor => ⌜low ≤ cursor.line⌝⦄ typeParameterList parse read
    ⦃⇓? parsed cursor => ⌜low ≤ cursor.line ∧
      (Goal.typeParameters read).Gives low cursor.line parsed.tree⌝⦄ := by
  mvcgen [typeParameterList] with grind -linarith

@[spec] theorem indexSignature_spans :
    ⦃fun cursor => ⌜low ≤ cursor.line⌝⦄ indexSignature parse
    ⦃⇓? tree cursor => ⌜low ≤ cursor.line ∧ Spans low cursor.line [tree]⌝⦄ := by
  mvcgen [indexSignature] with grind -linarith

@[spec] theorem typeMember_spans :
    ⦃fun cursor => ⌜low ≤ cursor.line⌝⦄ typeMember language parse
    ⦃⇓? tree cursor => ⌜low ≤ cursor.line ∧ Spans low cursor.line [tree]⌝⦄ := by
  unfold typeMember
  generalize String.toList = letters
  mvcgen with grind -linarith

theorem typeMembers_gives (read : List Tree) :
    ⦃fun cursor => ⌜low ≤ cursor.line⌝⦄ typeMembers language parse read
    ⦃⇓? parsed cursor => ⌜low ≤ cursor.line ∧
      (Goal.typeMembers read).Gives low cursor.line parsed.tree⌝⦄ := by
  mvcgen [typeMembers] with grind -linarith

theorem tupleMembers_gives (read : List Tree) :
    ⦃fun cursor => ⌜low ≤ cursor.line⌝⦄ tupleMembers parse read
    ⦃⇓? parsed cursor => ⌜low ≤ cursor.line ∧
      (Goal.tupleMembers read).Gives low cursor.line parsed.tree⌝⦄ := by
  mvcgen [tupleMembers] with grind -linarith

end Types

end UiContract.Script
