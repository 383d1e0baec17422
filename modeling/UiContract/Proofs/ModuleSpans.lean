import UiContract.Proofs.GrammarSpans
import UiContract.Script.Module

/-!
What the readings of import and export declarations give: trees that stand in order, with the parts
that their kinds promise.
-/
namespace UiContract.Script

open Std.Do
open Script.Tree

set_option mvcgen.warning false

section Parts

variable {low high line : Nat} {trees others : List Tree} {part : Tree}

theorem complete_specifier {kind : Kind} (line : Nat)
    (specifier : kind = .importSpecifier ∨ kind = .exportSpecifier) (member : part ∈ trees)
    (name : part.label.role = .name) : (above kind line trees).Complete := by
  have named := part_isSome (above kind line trees) member name
  rcases specifier with rfl | rfl
  · exact named
  · exact named

theorem complete_namespaceImport (line : Nat) (identifier : part.kind = .identifier) :
    (above .namespaceImport line [part]).Complete :=
  ⟨part, List.mem_cons_self, identifier⟩

theorem complete_namespaceExport (line : Nat) (named : part.isNamed = true) :
    (above .namespaceExport line [part]).Complete :=
  ⟨part, List.mem_cons_self, named⟩

theorem complete_import (line : Nat) (member : part ∈ trees)
    (source : part.label.role = .source) : (above .importStatement line trees).Complete :=
  .inl (part_isSome _ member source)

theorem Spans.cons_import (le : low ≤ line) (complete : (above .importStatement line trees).Complete)
    (spans : Spans line high (trees ++ others)) :
    Spans low high (above .importStatement line trees :: others) :=
  spans.cons_declaring le complete

/-- Where the module stands in a clause of its own, the clause names it and what it is called here. -/
theorem Spans.import_require {name : Tree} {start : Nat} {front back : List Tree} (le : low ≤ line)
    (source : part.label.role = .source) (identifier : name.kind = .identifier)
    (before : Spans line line front) (behind : Spans line high (name :: part :: back)) :
    Spans low high [above .importStatement line
      (front ++ [above .importRequireClause start [name, part]] ++ back)] := by
  have clause : (above .importRequireClause start [name, part]).Complete :=
    ⟨part_isSome _ (List.mem_cons_of_mem _ List.mem_cons_self) source,
      name, List.mem_cons_self, identifier⟩
  have stands : Spans line high (above .importRequireClause start [name, part] :: back) :=
    Spans.cons_silent start rfl clause behind
  have parts := before.append stands le_rfl
  have inside : above .importRequireClause start [name, part] ∈
      front ++ [above .importRequireClause start [name, part]] ++ back := by simp
  refine Spans.cons_declaring le (.inr ⟨_, inside, rfl⟩) ?_
  simpa using parts

end Parts

grind_pattern complete_specifier => (above kind line trees).Complete, part.label.role
grind_pattern complete_namespaceImport => (above .namespaceImport line [part]).Complete
grind_pattern complete_namespaceExport => (above .namespaceExport line [part]).Complete
grind_pattern complete_import => (above .importStatement line trees).Complete, part.label.role
grind_pattern Spans.cons_import => Spans low high (above .importStatement line trees :: others)
grind_pattern Spans.import_require => Spans low high [above .importStatement line
  (front ++ [above .importRequireClause start [name, part]] ++ back)]

attribute [grind =] isNamed

section Names

variable (low : Nat)

@[spec] theorem moduleSource_spans : ⦃fun cursor => ⌜low ≤ cursor.line⌝⦄ moduleSource
    ⦃⇓? tree cursor => ⌜low ≤ cursor.line ∧ Spans low cursor.line [tree] ∧
      tree.label.role = .source⌝⦄ := by
  mvcgen [moduleSource] with grind -linarith

@[spec] theorem fromModule_spans : ⦃fun cursor => ⌜low ≤ cursor.line⌝⦄ fromModule
    ⦃⇓? tree cursor => ⌜low ≤ cursor.line ∧ Spans low cursor.line [tree] ∧
      tree.label.role = .source⌝⦄ := by
  mvcgen [fromModule] with grind -linarith

@[spec] theorem exportedName_spans (role : Role) :
    ⦃fun cursor => ⌜low ≤ cursor.line⌝⦄ exportedName role
    ⦃⇓? tree cursor => ⌜low ≤ cursor.line ∧ Spans low cursor.line [tree] ∧
      tree.label.role = role ∧ tree.isNamed = true⌝⦄ := by
  mvcgen [exportedName] with grind -linarith

@[spec] theorem namespaceImport_spans : ⦃fun cursor => ⌜low ≤ cursor.line⌝⦄ namespaceImport
    ⦃⇓? tree cursor => ⌜low ≤ cursor.line ∧ Spans low cursor.line [tree]⌝⦄ := by
  mvcgen [namespaceImport] with grind -linarith

@[spec] theorem dottedName_moves (count : Nat) :
    ⦃fun cursor => ⌜low ≤ cursor.line⌝⦄ dottedName count ⦃⇓? _ cursor => ⌜low ≤ cursor.line⌝⦄ := by
  induction count generalizing low with
  | zero => mvcgen [dottedName]
  | succ count ih => mvcgen [dottedName, ih] with grind -linarith

end Names

section Declarations

variable (language : Language) (parse : Grammar) [Keeps parse] (low : Nat)

@[spec] theorem importName_spans : ⦃fun cursor => ⌜low ≤ cursor.line⌝⦄ importName language
    ⦃⇓? tree cursor => ⌜low ≤ cursor.line ∧ Spans low cursor.line [tree]⌝⦄ := by
  unfold importName
  generalize String.toList = letters
  mvcgen with grind -linarith

@[spec] theorem exportName_spans : ⦃fun cursor => ⌜low ≤ cursor.line⌝⦄ exportName language
    ⦃⇓? tree cursor => ⌜low ≤ cursor.line ∧ Spans low cursor.line [tree]⌝⦄ := by
  mvcgen [exportName] with grind -linarith

theorem importNames_gives (read : List Tree) :
    ⦃fun cursor => ⌜low ≤ cursor.line⌝⦄ importNames language parse read
    ⦃⇓? parsed cursor => ⌜low ≤ cursor.line ∧
      (Goal.importNames read).Gives low cursor.line parsed.tree⌝⦄ := by
  mvcgen [importNames] with grind -linarith

theorem exportNames_gives (read : List Tree) :
    ⦃fun cursor => ⌜low ≤ cursor.line⌝⦄ exportNames language parse read
    ⦃⇓? parsed cursor => ⌜low ≤ cursor.line ∧
      (Goal.exportNames read).Gives low cursor.line parsed.tree⌝⦄ := by
  mvcgen [exportNames] with grind -linarith

@[spec] theorem namedImports_spans : ⦃fun cursor => ⌜low ≤ cursor.line⌝⦄ namedImports parse
    ⦃⇓? tree cursor => ⌜low ≤ cursor.line ∧ Spans low cursor.line [tree]⌝⦄ := by
  mvcgen [namedImports] with grind -linarith

@[spec] theorem exportClause_spans : ⦃fun cursor => ⌜low ≤ cursor.line⌝⦄ exportClause parse
    ⦃⇓? tree cursor => ⌜low ≤ cursor.line ∧ Spans low cursor.line [tree]⌝⦄ := by
  mvcgen [exportClause] with grind -linarith

@[spec] theorem importedNames_spans : ⦃fun cursor => ⌜low ≤ cursor.line⌝⦄ importedNames parse
    ⦃⇓? tree cursor => ⌜low ≤ cursor.line ∧ Spans low cursor.line [tree]⌝⦄ := by
  mvcgen [importedNames] with grind -linarith

@[spec] theorem importClause_spans : ⦃fun cursor => ⌜low ≤ cursor.line⌝⦄ importClause parse
    ⦃⇓? tree cursor => ⌜low ≤ cursor.line ∧ Spans low cursor.line [tree]⌝⦄ := by
  mvcgen [importClause] with grind -linarith

@[spec] theorem importAttribute_spans :
    ⦃fun cursor => ⌜low ≤ cursor.line⌝⦄ importAttribute language parse
    ⦃⇓? trees cursor => ⌜low ≤ cursor.line ∧ Spans low cursor.line trees⌝⦄ := by
  mvcgen [importAttribute] with grind -linarith

@[spec] theorem importRest_spans (line : Nat) :
    ⦃fun cursor => ⌜line ≤ cursor.line⌝⦄ importRest language parse line
    ⦃⇓? tree cursor => ⌜line ≤ cursor.line ∧ Spans line cursor.line [tree]⌝⦄ := by
  mvcgen [importRest] with grind -linarith

@[spec] theorem exportedNames_spans (line : Nat) (marks : List Tree) :
    ⦃fun cursor => ⌜line ≤ cursor.line⌝⦄ exportedNames language parse line marks
    ⦃⇓? tree cursor => ⌜line ≤ cursor.line ∧
      (Spans line line marks → Spans line cursor.line [tree])⌝⦄ := by
  mvcgen [exportedNames] with grind -linarith

@[spec] theorem exportAll_spans (line : Nat) :
    ⦃fun cursor => ⌜line ≤ cursor.line⌝⦄ exportAll language line
    ⦃⇓? tree cursor => ⌜line ≤ cursor.line ∧ Spans line cursor.line [tree]⌝⦄ := by
  mvcgen [exportAll] with grind -linarith

end Declarations

end UiContract.Script
