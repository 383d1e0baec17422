import UiContract.Proofs.ExpressionSpans
import UiContract.Proofs.ItemSpans
import UiContract.Proofs.ModuleSpans
import UiContract.Proofs.TypeSpans
import UiContract.Script.Parse

/-!
What the readings of statements give, and with that what every goal gives: by induction on the bound on
the depth of calls each rule may take it of the goals that it reads. So the nodes of a text that can be
read stand in the order of their lines, each with the parts that its kind promises.
-/
namespace UiContract.Script

open Std.Do
open Script.Tree

set_option mvcgen.warning false

section Statements

variable (language : Language) (parse : Grammar) [Keeps parse] (low : Nat)

@[spec] theorem expressionStatement_spans :
    ⦃fun cursor => ⌜low ≤ cursor.line⌝⦄ expressionStatement language parse
    ⦃⇓? tree cursor => ⌜low ≤ cursor.line ∧ Spans low cursor.line [tree]⌝⦄ := by
  mvcgen [expressionStatement] with grind -linarith

@[spec] theorem declarator_spans (mode : Mode) :
    ⦃fun cursor => ⌜low ≤ cursor.line⌝⦄ declarator language parse mode
    ⦃⇓? tree cursor => ⌜low ≤ cursor.line ∧ Spans low cursor.line [tree]⌝⦄ := by
  mvcgen [declarator] with grind -linarith

theorem declarators_gives (mode : Mode) (read : List Tree) :
    ⦃fun cursor => ⌜low ≤ cursor.line⌝⦄ declarators language parse mode read
    ⦃⇓? parsed cursor => ⌜low ≤ cursor.line ∧
      (Goal.declarators mode read).Gives low cursor.line parsed.tree⌝⦄ := by
  mvcgen [declarators] with grind -linarith

@[spec] theorem variableList_spans (line : Nat) :
    ⦃fun cursor => ⌜low ≤ cursor.line⌝⦄ variableList language parse line
    ⦃⇓? tree cursor => ⌜low ≤ cursor.line ∧ Spans low cursor.line [tree]⌝⦄ := by
  mvcgen [variableList] with grind -linarith

@[spec] theorem ifRest_spans (line : Nat) :
    ⦃fun cursor => ⌜low ≤ cursor.line⌝⦄ ifRest language parse line
    ⦃⇓? tree cursor => ⌜low ≤ cursor.line ∧ Spans low cursor.line [tree]⌝⦄ := by
  mvcgen [ifRest] with grind -linarith

theorem switchCases_gives (read : List Tree) :
    ⦃fun cursor => ⌜low ≤ cursor.line⌝⦄ switchCases parse read
    ⦃⇓? parsed cursor => ⌜low ≤ cursor.line ∧
      (Goal.switchCases read).Gives low cursor.line parsed.tree⌝⦄ := by
  mvcgen [switchCases] with grind -linarith

@[spec] theorem forEachHeader_spans :
    ⦃fun cursor => ⌜low ≤ cursor.line⌝⦄ forEachHeader language parse
    ⦃⇓? trees cursor => ⌜low ≤ cursor.line ∧ Spans low cursor.line trees⌝⦄ := by
  unfold forEachHeader
  generalize String.toList = letters
  mvcgen with grind -linarith

@[spec] theorem forHeader_spans :
    ⦃fun cursor => ⌜low ≤ cursor.line⌝⦄ forHeader parse
    ⦃⇓? trees cursor => ⌜low ≤ cursor.line ∧ Spans low cursor.line trees⌝⦄ := by
  unfold forHeader
  generalize String.toList = letters
  mvcgen with grind -linarith

@[spec] theorem forRest_spans (line : Nat) :
    ⦃fun cursor => ⌜low ≤ cursor.line⌝⦄ forRest language parse line
    ⦃⇓? tree cursor => ⌜low ≤ cursor.line ∧ Spans low cursor.line [tree]⌝⦄ := by
  mvcgen [forRest] with grind -linarith

@[spec] theorem caught_spans :
    ⦃fun cursor => ⌜low ≤ cursor.line⌝⦄ caught language parse
    ⦃⇓? trees cursor => ⌜low ≤ cursor.line ∧ Spans low cursor.line trees⌝⦄ := by
  mvcgen [caught] with grind -linarith

@[spec] theorem tryRest_spans (line : Nat) :
    ⦃fun cursor => ⌜low ≤ cursor.line⌝⦄ tryRest language parse line
    ⦃⇓? tree cursor => ⌜low ≤ cursor.line ∧ Spans low cursor.line [tree]⌝⦄ := by
  mvcgen [tryRest] with grind -linarith

@[spec] theorem handedOn_spans (line : Nat) :
    ⦃fun cursor => ⌜low ≤ cursor.line⌝⦄ handedOn language parse line
    ⦃⇓? tree cursor => ⌜low ≤ cursor.line ∧ Spans low cursor.line [tree]⌝⦄ := by
  mvcgen [handedOn] with grind -linarith

@[spec] theorem jump_spans (line : Nat) :
    ⦃fun cursor => ⌜low ≤ cursor.line⌝⦄ jump language line
    ⦃⇓? tree cursor => ⌜low ≤ cursor.line ∧ Spans low cursor.line [tree]⌝⦄ := by
  mvcgen [jump] with grind -linarith

@[spec] theorem functionDeclaration_spans :
    ⦃fun cursor => ⌜low ≤ cursor.line⌝⦄ functionDeclaration language parse
    ⦃⇓? tree cursor => ⌜low ≤ cursor.line ∧ Spans low cursor.line [tree]⌝⦄ := by
  mvcgen [functionDeclaration] with grind -linarith

@[spec] theorem classDeclaration_spans :
    ⦃fun cursor => ⌜low ≤ cursor.line⌝⦄ classDeclaration language parse
    ⦃⇓? tree cursor => ⌜low ≤ cursor.line ∧ Spans low cursor.line [tree]⌝⦄ := by
  mvcgen [classDeclaration] with grind -linarith

theorem enumMembers_gives (read : List Tree) :
    ⦃fun cursor => ⌜low ≤ cursor.line⌝⦄ enumMembers parse read
    ⦃⇓? parsed cursor => ⌜low ≤ cursor.line ∧
      (Goal.enumMembers read).Gives low cursor.line parsed.tree⌝⦄ := by
  mvcgen [enumMembers] with grind -linarith

@[spec] theorem enumDeclaration_spans :
    ⦃fun cursor => ⌜low ≤ cursor.line⌝⦄ enumDeclaration parse
    ⦃⇓? tree cursor => ⌜low ≤ cursor.line ∧ Spans low cursor.line [tree]⌝⦄ := by
  mvcgen [enumDeclaration] with grind -linarith

@[spec] theorem interfaceDeclaration_spans :
    ⦃fun cursor => ⌜low ≤ cursor.line⌝⦄ interfaceDeclaration language parse
    ⦃⇓? tree cursor => ⌜low ≤ cursor.line ∧ Spans low cursor.line [tree]⌝⦄ := by
  mvcgen [interfaceDeclaration] with grind -linarith

@[spec] theorem typeDeclaration_spans :
    ⦃fun cursor => ⌜low ≤ cursor.line⌝⦄ typeDeclaration language parse
    ⦃⇓? tree cursor => ⌜low ≤ cursor.line ∧ Spans low cursor.line [tree]⌝⦄ := by
  mvcgen [typeDeclaration] with grind -linarith

@[spec] theorem namespaceDeclaration_spans :
    ⦃fun cursor => ⌜low ≤ cursor.line⌝⦄ namespaceDeclaration parse
    ⦃⇓? tree cursor => ⌜low ≤ cursor.line ∧ Spans low cursor.line [tree]⌝⦄ := by
  mvcgen [namespaceDeclaration] with grind -linarith

@[spec] theorem ambientDeclaration_spans :
    ⦃fun cursor => ⌜low ≤ cursor.line⌝⦄ ambientDeclaration language parse
    ⦃⇓? tree cursor => ⌜low ≤ cursor.line ∧ Spans low cursor.line [tree]⌝⦄ := by
  unfold ambientDeclaration
  generalize String.toList = letters
  mvcgen with grind -linarith

@[spec] theorem declaration_spans (word : String) :
    ⦃fun cursor => ⌜low ≤ cursor.line⌝⦄ declaration language parse word
    ⦃⇓? tree cursor => ⌜low ≤ cursor.line ∧ Spans low cursor.line [tree]⌝⦄ := by
  unfold declaration
  generalize String.toList = letters
  mvcgen with grind -linarith

@[spec] theorem decoratedClass_spans :
    ⦃fun cursor => ⌜low ≤ cursor.line⌝⦄ decoratedClass language parse
    ⦃⇓? tree cursor => ⌜low ≤ cursor.line ∧ Spans low cursor.line [tree]⌝⦄ := by
  mvcgen [decoratedClass] with grind -linarith

@[spec] theorem exportDefault_spans (line : Nat) :
    ⦃fun cursor => ⌜line ≤ cursor.line⌝⦄ exportDefault language parse line
    ⦃⇓? tree cursor => ⌜line ≤ cursor.line ∧ Spans line cursor.line [tree]⌝⦄ := by
  mvcgen [exportDefault] with grind -linarith

@[spec] theorem exportRest_spans (line : Nat) :
    ⦃fun cursor => ⌜line ≤ cursor.line⌝⦄ exportRest language parse line []
    ⦃⇓? tree cursor => ⌜line ≤ cursor.line ∧ Spans line cursor.line [tree]⌝⦄ := by
  unfold exportRest
  generalize String.toList = letters
  mvcgen with grind -linarith

@[spec] theorem bracedStatement_spans :
    ⦃fun cursor => ⌜low ≤ cursor.line⌝⦄ bracedStatement language parse
    ⦃⇓? tree cursor => ⌜low ≤ cursor.line ∧ Spans low cursor.line [tree]⌝⦄ := by
  unfold bracedStatement
  generalize String.toList = letters
  mvcgen with grind -linarith

@[spec] theorem labeledOrExpression_spans :
    ⦃fun cursor => ⌜low ≤ cursor.line⌝⦄ labeledOrExpression language parse
    ⦃⇓? tree cursor => ⌜low ≤ cursor.line ∧ Spans low cursor.line [tree]⌝⦄ := by
  mvcgen [labeledOrExpression] with grind -linarith

@[spec] theorem wordStatement_spans (word : String) (line : Nat) :
    ⦃fun cursor => ⌜line ≤ cursor.line⌝⦄ wordStatement language parse word line
    ⦃⇓? tree cursor => ⌜line ≤ cursor.line ∧ Spans line cursor.line [tree]⌝⦄ := by
  unfold wordStatement
  generalize String.toList = letters
  mvcgen with grind -linarith

theorem statement_gives :
    ⦃fun cursor => ⌜low ≤ cursor.line⌝⦄ statement language parse
    ⦃⇓? parsed cursor => ⌜low ≤ cursor.line ∧
      (Goal.statement).Gives low cursor.line parsed.tree⌝⦄ := by
  mvcgen [statement] with grind -linarith

theorem statements_gives (inSwitch : Bool) (read : List Tree) :
    ⦃fun cursor => ⌜low ≤ cursor.line⌝⦄ statements parse inSwitch read
    ⦃⇓? parsed cursor => ⌜low ≤ cursor.line ∧
      (Goal.statements inSwitch read).Gives low cursor.line parsed.tree⌝⦄ := by
  mvcgen [statements] with grind -linarith

end Statements

section Texts

variable (language : Language)

instance rule_keeps (parse : Grammar) [Keeps parse] : Keeps (rule language parse) where
  gives goal low := by
    cases goal with
    | statement => exact statement_gives language parse low
    | statements inSwitch read => exact statements_gives parse low inSwitch read
    | switchCases read => exact switchCases_gives parse low read
    | declarators mode read => exact declarators_gives language parse low mode read
    | importNames read => exact importNames_gives language parse low read
    | exportNames read => exact exportNames_gives language parse low read
    | enumMembers read => exact enumMembers_gives parse low read
    | decorators read => exact decorators_gives language parse low read
    | classMembers read => exact classMembers_gives language parse low read
    | superclasses read => exact superclasses_gives language parse low read
    | sequence mode => exact sequence_gives parse low mode
    | expression mode => exact expression_gives parse low mode
    | cover mode => exact cover_gives language parse low mode
    | operand mode => exact operand_gives language parse low mode
    | chain mode head => exact chain_gives language parse low mode head
    | operators mode first => exact operators_gives language parse low mode first
    | parenthesisItems items => exact parenthesisItems_gives language parse low items
    | arrayItems items => exact arrayItems_gives parse low items
    | objectItems items => exact objectItems_gives language parse low items
    | argumentItems read => exact argumentItems_gives parse low read
    | templateParts read => exact templateParts_gives parse low read
    | markup => exact markup_gives language parse low
    | markupChildren read => exact markupChildren_gives parse low read
    | markupAttributes read => exact markupAttributes_gives parse low read
    | type => exact typeGoal_gives parse low
    | typeSuffix fresh head => exact typeSuffix_gives language parse low fresh head
    | typeOperators head => exact typeOperators_gives parse low head
    | typeList read => exact typeList_gives parse low read
    | typeParameters read => exact typeParameterList_gives parse low read
    | typeMembers read => exact typeMembers_gives language parse low read
    | tupleMembers read => exact tupleMembers_gives parse low read
    | typeTemplate read => exact typeTemplateParts_gives parse low read
    | typeQuery head => exact typeQuery_gives parse low head

instance grammar_keeps (depth : Nat) : Keeps (grammar language depth) := by
  induction depth with
  | zero =>
      refine ⟨fun goal low start _ => ?_⟩
      rw [wp_reading]
      trivial
  | succ depth ih => exact rule_keeps language (grammar language depth)

theorem gives_of_read (parse : Grammar) [Keeps parse] (goal : Goal) (start after : Cursor)
    (parsed : Parsed) (read : parse goal start = .ok (parsed, after)) :
    start.line ≤ after.line ∧ goal.Gives start.line after.line parsed.tree :=
  (triple_iff (parse goal) start.line fun parsed high =>
    start.line ≤ high ∧ goal.Gives start.line high parsed.tree).mp (Keeps.gives goal _)
    start parsed after le_rfl read

/-- Statements that are read one after the other stand in the order in which they are read. -/
theorem readStatements_spans (parse : Grammar) [Keeps parse] (count : Nat) (read : List Tree)
    (cursor : Cursor) (bottom : Nat) (trees : List Tree)
    (before : Spans bottom cursor.line read.reverse)
    (ok : readStatements parse count read cursor = .ok trees) : ∃ high, Spans bottom high trees := by
  induction count generalizing read cursor with
  | zero =>
      rw [readStatements] at ok
      exact ⟨cursor.line, Except.ok.inj ok ▸ before⟩
  | succ count ih =>
      unfold readStatements at ok
      dsimp only at ok
      split at ok
      · exact ⟨cursor.line, Except.ok.inj ok ▸ before⟩
      · split at ok
        · contradiction
        · rename_i next after given
          have behind := statementStart_line (cursor.rest.length + 1) cursor
          obtain ⟨-, stands⟩ := gives_of_read parse .statement _ after next given
          refine ih (next.tree :: read) after ?_ ok
          rw [List.reverse_cons]
          exact before.append stands behind

/-- The nodes of a text that can be read stand in the order of their lines, and each has the parts that
its kind promises. -/
theorem parse_spans (text : List Char) (whole : (parse language text).broken = false) :
    ∃ high, Spans (startOf text).line high [parse language text] := by
  unfold parse at whole ⊢
  split
  · rename_i statements read
    obtain ⟨-, read⟩ := (readProgram_ok_iff language text statements).mp read
    obtain ⟨high, spans⟩ := readStatements_spans _ _ [] _ _ statements (.nil le_rfl) read
    exact ⟨high, spans.above_silent 1 rfl trivial⟩
  · rename_i fault failed
    rw [failed] at whole
    contradiction

end Texts

end UiContract.Script
