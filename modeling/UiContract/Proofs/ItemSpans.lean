import UiContract.Proofs.GrammarSpans
import UiContract.Script.Items

/-!
What the readings between brackets give: the items of a list stand in the order in which they were
read, behind the ones that were read before.
-/
namespace UiContract.Script

open Std.Do
open Script.Tree

set_option mvcgen.warning false

@[spec] theorem parameterWords_moves (count low : Nat) :
    ⦃fun cursor => ⌜low ≤ cursor.line⌝⦄ parameterWords count
    ⦃⇓? _ cursor => ⌜low ≤ cursor.line⌝⦄ := by
  induction count generalizing low with
  | zero => mvcgen [parameterWords]
  | succ count ih => mvcgen [parameterWords, ih] with grind -linarith

section Comments

variable {low high : Nat} (tree : Nat → Tree)
  (empty : ∀ line, (tree line).children = [] ∧ (tree line).kind.isPlain = true)

include empty

theorem Spans.leaves (lines : List Nat) (le : low ≤ high) : Spans low high (lines.map tree) := by
  induction lines with
  | nil => exact .nil le
  | cons line lines ih =>
      obtain ⟨none, plain⟩ := empty line
      refine Spans.cons (.node ?_ (complete_of_isPlain plain) ?_) ih le_rfl
      · exact none ▸ .nil le_rfl
      · revert plain
        cases (tree line).kind <;> simp [Kind.isPlain, Kind.declares]

theorem Spans.between_leaves {read : List Tree} {item : Tree} (before behind : List Nat)
    (spans : Spans low high (read ++ [item])) :
    Spans low high (read ++ (before.map tree ++ item :: behind.map tree)) := by
  obtain ⟨middle, front, back⟩ := spans.split
  have around := (Spans.leaves tree empty before le_rfl).append
    (back.cons (Spans.leaves tree empty behind le_rfl) le_rfl) le_rfl
  exact front.append around le_rfl

end Comments

grind_pattern Spans.leaves => Spans low high (lines.map tree)
grind_pattern Spans.between_leaves =>
  Spans low high (read ++ (before.map tree ++ item :: behind.map tree))

theorem Items.add_read (items : Items) (tree : Tree) (expression pattern : Bool) :
    (items.add tree expression pattern).read = tree :: items.read := rfl

attribute [grind =] Items.add_read Items.close closeParenthesis leaf_children

section Items

variable (language : Language) (parse : Grammar) [Keeps parse] (low : Nat)

theorem argumentItems_gives (read : List Tree) :
    ⦃fun cursor => ⌜low ≤ cursor.line⌝⦄ argumentItems parse read
    ⦃⇓? parsed cursor => ⌜low ≤ cursor.line ∧
      (Goal.argumentItems read).Gives low cursor.line parsed.tree⌝⦄ := by
  mvcgen [argumentItems]
  -- Comments stand in front of an item and behind it; the list is brought to the form that says so.
  all_goals try simp +zetaDelta only [Goal.Gives, List.reverse_append, List.reverse_cons,
    List.reverse_reverse, List.append_assoc, List.cons_append, List.nil_append] at *
  all_goals grind -linarith

theorem arrayItems_gives (items : Items) :
    ⦃fun cursor => ⌜low ≤ cursor.line⌝⦄ arrayItems parse items
    ⦃⇓? parsed cursor => ⌜low ≤ cursor.line ∧
      (Goal.arrayItems items).Gives low cursor.line parsed.tree⌝⦄ := by
  mvcgen [arrayItems, afterItem] with grind -linarith

@[spec] theorem objectMethod_carries (line : Nat) (front : List Tree) :
    ⦃fun cursor => ⌜low ≤ cursor.line⌝⦄ objectMethod language parse line front
    ⦃⇓? tree cursor => ⌜low ≤ cursor.line ∧ Carries low cursor.line front tree⌝⦄ := by
  mvcgen [objectMethod] with grind -linarith

@[spec] theorem objectItem_spans :
    ⦃fun cursor => ⌜low ≤ cursor.line⌝⦄ objectItem language parse
    ⦃⇓? read cursor => ⌜low ≤ cursor.line ∧ Spans low cursor.line [read.1]⌝⦄ := by
  mvcgen [objectItem] with grind -linarith

theorem objectItems_gives (items : Items) :
    ⦃fun cursor => ⌜low ≤ cursor.line⌝⦄ objectItems language parse items
    ⦃⇓? parsed cursor => ⌜low ≤ cursor.line ∧
      (Goal.objectItems items).Gives low cursor.line parsed.tree⌝⦄ := by
  mvcgen [objectItems, afterItem] with grind -linarith

@[spec] theorem parenthesisItem_adds (items : Items) :
    ⦃fun cursor => ⌜low ≤ cursor.line⌝⦄ parenthesisItem language parse items
    ⦃⇓? added cursor => ⌜low ≤ cursor.line ∧ ∃ tree,
      added.read = tree :: items.read ∧ Spans low cursor.line [tree]⌝⦄ := by
  mvcgen [parenthesisItem]
  all_goals refine ⟨?_, _, rfl, ?_⟩ <;> grind -linarith

theorem parenthesisItems_gives (items : Items) :
    ⦃fun cursor => ⌜low ≤ cursor.line⌝⦄ parenthesisItems language parse items
    ⦃⇓? parsed cursor => ⌜low ≤ cursor.line ∧
      (Goal.parenthesisItems items).Gives low cursor.line parsed.tree⌝⦄ := by
  mvcgen [parenthesisItems] with grind -linarith

theorem templateParts_gives (read : List Tree) :
    ⦃fun cursor => ⌜low ≤ cursor.line⌝⦄ templateParts parse read
    ⦃⇓? parsed cursor => ⌜low ≤ cursor.line ∧
      (Goal.templateParts read).Gives low cursor.line parsed.tree⌝⦄ := by
  mvcgen [templateParts] with grind -linarith

end Items

end UiContract.Script
