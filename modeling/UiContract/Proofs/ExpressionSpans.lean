import UiContract.Proofs.GrammarSpans
import UiContract.Script.Class
import UiContract.Script.Expression
import UiContract.Script.Markup

/-!
What the readings of expressions, classes and markup give. What follows an operand goes on behind it,
so the whole begins where the operand begins.
-/
namespace UiContract.Script

open Std.Do
open Script.Tree

set_option mvcgen.warning false

attribute [grind =] call

@[spec] theorem decoratorMembers_moves (count low : Nat) :
    ⦃fun cursor => ⌜low ≤ cursor.line⌝⦄ decoratorMembers count
    ⦃⇓? _ cursor => ⌜low ≤ cursor.line⌝⦄ := by
  induction count generalizing low with
  | zero => mvcgen [decoratorMembers]
  | succ count ih => mvcgen [decoratorMembers, ih] with grind -linarith

section Expressions

variable (language : Language) (parse : Grammar) [Keeps parse] (low : Nat)

theorem sequence_gives (mode : Mode) :
    ⦃fun cursor => ⌜low ≤ cursor.line⌝⦄ sequence parse mode
    ⦃⇓? parsed cursor => ⌜low ≤ cursor.line ∧
      (Goal.sequence mode).Gives low cursor.line parsed.tree⌝⦄ := by
  mvcgen [sequence] with grind -linarith

theorem expression_gives (mode : Mode) :
    ⦃fun cursor => ⌜low ≤ cursor.line⌝⦄ expression parse mode
    ⦃⇓? parsed cursor => ⌜low ≤ cursor.line ∧
      (Goal.expression mode).Gives low cursor.line parsed.tree⌝⦄ := by
  mvcgen [expression] with grind -linarith

@[spec] theorem prefixed_located (mode : Mode) (line length : Nat) :
    ⦃fun cursor => ⌜line ≤ cursor.line⌝⦄ prefixed parse mode line length
    ⦃⇓? parsed cursor => ⌜line ≤ cursor.line ∧ Located line cursor.line parsed.tree⌝⦄ := by
  mvcgen [prefixed] with grind -linarith

@[spec] theorem yielded_located (mode : Mode) (line : Nat) :
    ⦃fun cursor => ⌜line ≤ cursor.line⌝⦄ yielded language parse mode line
    ⦃⇓? parsed cursor => ⌜line ≤ cursor.line ∧ Located line cursor.line parsed.tree⌝⦄ := by
  unfold yielded
  generalize String.toList = letters
  mvcgen with grind -linarith

@[spec] theorem arrowBody_carries (mode : Mode) (line : Nat) (before : List Tree) :
    ⦃fun cursor => ⌜low ≤ cursor.line⌝⦄ arrowBody parse mode line before
    ⦃⇓? parsed cursor => ⌜low ≤ cursor.line ∧ parsed.tree.line = line ∧
      Carries low cursor.line before parsed.tree⌝⦄ := by
  mvcgen [arrowBody] with grind -linarith

@[spec] theorem genericArrow_located (mode : Mode) :
    ⦃fun cursor => ⌜low ≤ cursor.line⌝⦄ genericArrow language parse mode
    ⦃⇓? parsed cursor => ⌜low ≤ cursor.line ∧ Located low cursor.line parsed.tree⌝⦄ := by
  mvcgen [genericArrow] with grind -linarith

@[spec] theorem assertion_located (mode : Mode) :
    ⦃fun cursor => ⌜low ≤ cursor.line⌝⦄ assertion parse mode
    ⦃⇓? parsed cursor => ⌜low ≤ cursor.line ∧ Located low cursor.line parsed.tree⌝⦄ := by
  mvcgen [assertion] with grind -linarith

theorem cover_gives (mode : Mode) :
    ⦃fun cursor => ⌜low ≤ cursor.line⌝⦄ cover language parse mode
    ⦃⇓? parsed cursor => ⌜low ≤ cursor.line ∧
      (Goal.cover mode).Gives low cursor.line parsed.tree⌝⦄ := by
  unfold cover
  generalize String.toList = letters
  mvcgen with grind -linarith

@[spec] theorem choice_wraps (mode : Mode) (head : Parsed) :
    ⦃fun cursor => ⌜low ≤ cursor.line⌝⦄ choice language parse mode head
    ⦃⇓? parsed cursor => ⌜low ≤ cursor.line ∧ Wraps low cursor.line head.tree parsed.tree⌝⦄ := by
  mvcgen [choice] with grind -linarith

theorem operators_gives (mode : Mode) (head : Parsed) :
    ⦃fun cursor => ⌜low ≤ cursor.line⌝⦄ operators language parse mode head
    ⦃⇓? parsed cursor => ⌜low ≤ cursor.line ∧
      (Goal.operators mode head).Gives low cursor.line parsed.tree⌝⦄ := by
  mvcgen [operators] with grind -linarith

@[spec] theorem callArguments_spans :
    ⦃fun cursor => ⌜low ≤ cursor.line⌝⦄ callArguments parse
    ⦃⇓? tree cursor => ⌜low ≤ cursor.line ∧ Spans low cursor.line [tree]⌝⦄ := by
  mvcgen [callArguments] with grind -linarith

@[spec] theorem template_located :
    ⦃fun cursor => ⌜low ≤ cursor.line⌝⦄ template parse
    ⦃⇓? tree cursor => ⌜low ≤ cursor.line ∧ Located low cursor.line tree⌝⦄ := by
  mvcgen [template] with grind -linarith

@[spec] theorem member_wraps (mode : Mode) (head : Parsed) :
    ⦃fun cursor => ⌜low ≤ cursor.line⌝⦄ member parse mode head
    ⦃⇓? parsed cursor => ⌜low ≤ cursor.line ∧ Wraps low cursor.line head.tree parsed.tree⌝⦄ := by
  mvcgen [member] with grind -linarith

@[spec] theorem subscript_wraps (mode : Mode) (head : Parsed) :
    ⦃fun cursor => ⌜low ≤ cursor.line⌝⦄ subscript parse mode head
    ⦃⇓? parsed cursor => ⌜low ≤ cursor.line ∧ Wraps low cursor.line head.tree parsed.tree⌝⦄ := by
  mvcgen [subscript] with grind -linarith

@[spec] theorem called_wraps (mode : Mode) (head : Parsed) (types : List Tree) :
    ⦃fun cursor => ⌜low ≤ cursor.line⌝⦄ called parse mode head types
    ⦃⇓? parsed cursor => ⌜low ≤ cursor.line ∧ parsed.tree.line = head.tree.line ∧
      (Spans head.tree.line low (head.tree :: types) →
        Spans head.tree.line cursor.line [parsed.tree])⌝⦄ := by
  mvcgen [called] with grind -linarith

@[spec] theorem typeArguments_spans :
    ⦃fun cursor => ⌜low ≤ cursor.line⌝⦄ typeArguments parse
    ⦃⇓? tree cursor => ⌜low ≤ cursor.line ∧ Spans low cursor.line [tree]⌝⦄ := by
  mvcgen [typeArguments] with grind -linarith

@[spec] theorem instantiated_wraps (mode : Mode) (head : Parsed) :
    ⦃fun cursor => ⌜low ≤ cursor.line⌝⦄ instantiated language parse mode head
    ⦃⇓? parsed cursor => ⌜low ≤ cursor.line ∧ Wraps low cursor.line head.tree parsed.tree⌝⦄ := by
  mvcgen [instantiated] with grind -linarith

theorem chain_gives (mode : Mode) (head : Parsed) :
    ⦃fun cursor => ⌜low ≤ cursor.line⌝⦄ chain language parse mode head
    ⦃⇓? parsed cursor => ⌜low ≤ cursor.line ∧
      (Goal.chain mode head).Gives low cursor.line parsed.tree⌝⦄ := by
  mvcgen [chain] with grind -linarith

@[spec] theorem parenthesized_located (mode : Mode) :
    ⦃fun cursor => ⌜low ≤ cursor.line⌝⦄ parenthesized language parse mode
    ⦃⇓? parsed cursor => ⌜low ≤ cursor.line ∧ Located low cursor.line parsed.tree⌝⦄ := by
  mvcgen [parenthesized] with grind -linarith

@[spec] theorem functionRest_located (line : Nat) :
    ⦃fun cursor => ⌜line ≤ cursor.line⌝⦄ functionRest language parse line
    ⦃⇓? parsed cursor => ⌜line ≤ cursor.line ∧ Located line cursor.line parsed.tree⌝⦄ := by
  mvcgen [functionRest] with grind -linarith

@[spec] theorem asyncOperand_located (mode : Mode) (word : Word) :
    ⦃fun cursor => ⌜word.line ≤ cursor.line⌝⦄ asyncOperand language parse mode word
    ⦃⇓? parsed cursor => ⌜word.line ≤ cursor.line ∧ Located word.line cursor.line parsed.tree⌝⦄ := by
  unfold asyncOperand
  generalize String.toList = letters
  mvcgen with grind -linarith

@[spec] theorem importOperand_located (word : Word) :
    ⦃fun cursor => ⌜word.line ≤ cursor.line⌝⦄ importOperand language parse word
    ⦃⇓? parsed cursor => ⌜word.line ≤ cursor.line ∧ Located word.line cursor.line parsed.tree⌝⦄ := by
  mvcgen [importOperand] with grind -linarith

@[spec] theorem newOperand_located (mode : Mode) (word : Word) :
    ⦃fun cursor => ⌜word.line ≤ cursor.line⌝⦄ newOperand parse mode word
    ⦃⇓? parsed cursor => ⌜word.line ≤ cursor.line ∧ Located word.line cursor.line parsed.tree⌝⦄ := by
  mvcgen [newOperand] with grind -linarith

@[spec] theorem classRest_spans (line : Nat) :
    ⦃fun cursor => ⌜low ≤ cursor.line⌝⦄ classRest language parse line
    ⦃⇓? tree cursor => ⌜low ≤ cursor.line ∧ tree.line = line ∧ Spans low cursor.line [tree]⌝⦄ := by
  mvcgen [classRest] with grind -linarith

@[spec] theorem wordOperand_located (mode : Mode) :
    ⦃fun cursor => ⌜low ≤ cursor.line⌝⦄ wordOperand language parse mode
    ⦃⇓? parsed cursor => ⌜low ≤ cursor.line ∧ Located low cursor.line parsed.tree⌝⦄ := by
  mvcgen [wordOperand] with grind -linarith

@[spec] theorem beginning_located (mode : Mode) :
    ⦃fun cursor => ⌜low ≤ cursor.line⌝⦄ beginning language parse mode
    ⦃⇓? parsed cursor => ⌜low ≤ cursor.line ∧ Located low cursor.line parsed.tree⌝⦄ := by
  mvcgen [beginning] with grind -linarith

theorem operand_gives (mode : Mode) :
    ⦃fun cursor => ⌜low ≤ cursor.line⌝⦄ operand language parse mode
    ⦃⇓? parsed cursor => ⌜low ≤ cursor.line ∧
      (Goal.operand mode).Gives low cursor.line parsed.tree⌝⦄ := by
  mvcgen [operand] with grind -linarith

end Expressions

section Classes

variable (language : Language) (parse : Grammar) [Keeps parse] (low : Nat)

@[spec] theorem decorator_spans :
    ⦃fun cursor => ⌜low ≤ cursor.line⌝⦄ decorator language parse
    ⦃⇓? tree cursor => ⌜low ≤ cursor.line ∧ Spans low cursor.line [tree]⌝⦄ := by
  mvcgen [decorator] with grind -linarith

theorem decorators_gives (read : List Tree) :
    ⦃fun cursor => ⌜low ≤ cursor.line⌝⦄ decorators language parse read
    ⦃⇓? parsed cursor => ⌜low ≤ cursor.line ∧
      (Goal.decorators read).Gives low cursor.line parsed.tree⌝⦄ := by
  mvcgen [decorators] with grind -linarith

theorem superclasses_gives (read : List Tree) :
    ⦃fun cursor => ⌜low ≤ cursor.line⌝⦄ superclasses language parse read
    ⦃⇓? parsed cursor => ⌜low ≤ cursor.line ∧
      (Goal.superclasses read).Gives low cursor.line parsed.tree⌝⦄ := by
  mvcgen [superclasses] with grind -linarith

@[spec] theorem endMember_moves (ending : Ending) :
    ⦃fun cursor => ⌜low ≤ cursor.line⌝⦄ endMember language ending
    ⦃⇓? _ cursor => ⌜low ≤ cursor.line⌝⦄ := by
  mvcgen [endMember] with grind -linarith

@[spec] theorem fieldRest_carries (line : Nat) (name : List Tree) :
    ⦃fun cursor => ⌜low ≤ cursor.line⌝⦄ fieldRest language parse line name
    ⦃⇓? tree cursor => ⌜low ≤ cursor.line ∧ Carries low cursor.line name tree⌝⦄ := by
  mvcgen [fieldRest] with grind -linarith

@[spec] theorem methodRest_carries (line : Nat) (name : List Tree) :
    ⦃fun cursor => ⌜low ≤ cursor.line⌝⦄ methodRest language parse line name
    ⦃⇓? tree cursor => ⌜low ≤ cursor.line ∧ Carries low cursor.line name tree⌝⦄ := by
  mvcgen [methodRest] with grind -linarith

@[spec] theorem classMember_spans :
    ⦃fun cursor => ⌜low ≤ cursor.line⌝⦄ classMember language parse
    ⦃⇓? tree cursor => ⌜low ≤ cursor.line ∧ Spans low cursor.line [tree]⌝⦄ := by
  mvcgen [classMember] with grind -linarith

theorem classMembers_gives (read : List Tree) :
    ⦃fun cursor => ⌜low ≤ cursor.line⌝⦄ classMembers language parse read
    ⦃⇓? parsed cursor => ⌜low ≤ cursor.line ∧
      (Goal.classMembers read).Gives low cursor.line parsed.tree⌝⦄ := by
  mvcgen [classMembers] with grind -linarith

end Classes

@[spec] theorem markupName_moves (low : Nat) :
    ⦃fun cursor => ⌜low ≤ cursor.line⌝⦄ markupName ⦃⇓? _ cursor => ⌜low ≤ cursor.line⌝⦄ := by
  mvcgen [markupName] with grind -linarith

@[spec] theorem markupMembers_moves (count low : Nat) :
    ⦃fun cursor => ⌜low ≤ cursor.line⌝⦄ markupMembers count
    ⦃⇓? _ cursor => ⌜low ≤ cursor.line⌝⦄ := by
  induction count generalizing low with
  | zero => mvcgen [markupMembers]
  | succ count ih => mvcgen [markupMembers, ih] with grind -linarith

@[spec] theorem elementName_moves (low : Nat) :
    ⦃fun cursor => ⌜low ≤ cursor.line⌝⦄ elementName ⦃⇓? _ cursor => ⌜low ≤ cursor.line⌝⦄ := by
  mvcgen [elementName] with grind -linarith

section Elements

variable (language : Language) (parse : Grammar) [Keeps parse] (low : Nat)

@[spec] theorem markupExpression_spans :
    ⦃fun cursor => ⌜low ≤ cursor.line⌝⦄ markupExpression parse
    ⦃⇓? tree cursor => ⌜low ≤ cursor.line ∧ Spans low cursor.line [tree]⌝⦄ := by
  mvcgen [markupExpression] with grind -linarith

@[spec] theorem attributeValue_spans :
    ⦃fun cursor => ⌜low ≤ cursor.line⌝⦄ attributeValue parse
    ⦃⇓? trees cursor => ⌜low ≤ cursor.line ∧ Spans low cursor.line trees⌝⦄ := by
  mvcgen [attributeValue] with grind -linarith

theorem markupAttributes_gives (read : List Tree) :
    ⦃fun cursor => ⌜low ≤ cursor.line⌝⦄ markupAttributes parse read
    ⦃⇓? parsed cursor => ⌜low ≤ cursor.line ∧
      (Goal.markupAttributes read).Gives low cursor.line parsed.tree⌝⦄ := by
  mvcgen [markupAttributes] with grind -linarith

theorem markupChildren_gives (read : List Tree) :
    ⦃fun cursor => ⌜low ≤ cursor.line⌝⦄ markupChildren parse read
    ⦃⇓? parsed cursor => ⌜low ≤ cursor.line ∧
      (Goal.markupChildren read).Gives low cursor.line parsed.tree⌝⦄ := by
  mvcgen [markupChildren] with grind -linarith

theorem markup_gives :
    ⦃fun cursor => ⌜low ≤ cursor.line⌝⦄ markup language parse
    ⦃⇓? parsed cursor => ⌜low ≤ cursor.line ∧
      (Goal.markup).Gives low cursor.line parsed.tree⌝⦄ := by
  mvcgen [markup] with grind -linarith

end Elements

end UiContract.Script
