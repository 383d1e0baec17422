import UiContract.Checks.BannedImports
import UiContract.Proofs.DynamicImports
import UiContract.Proofs.WrittenDeclarations

/-!
Specifiers as they are written. A module that a text names by a literal is imported under the text of
that literal, whichever form names it, as long as the text neither begins nor ends with a quote. Quotes
at its ends are taken away together with those of the literal, and then no ban of what is written is
sure to reach the import.
-/
namespace UiContract

open Script

namespace Script.Form

def declaration (specifier : String) : Form → ImportDeclaration
  | bare => { specifier, bindings := [], typeOnly := false, kind := .sideEffect, line := 1 }
  | default name _ =>
      { specifier, bindings := [.defaultExport (String.ofList name)], typeOnly := false,
        kind := .static, line := 1 }
  | everything => { specifier, bindings := [], typeOnly := false, kind := .reExport, line := 1 }
  | call => { specifier, bindings := [], typeOnly := false, kind := .dynamic, line := 1 }

theorem collect_tree (form : Form) (literal : Literal) :
    ImportDeclaration.collect (above .program 1 [form.tree literal]) =
      [form.declaration (ImportDeclaration.unquote literal.written)] := by
  rw [ImportDeclaration.collect_eq]
  cases form <;> rfl

end Script.Form

theorem Script.parse_nul (language : Language) {text : List Char} (member : nul ∈ text) :
    (parse language text).broken = true := by
  unfold parse
  cases read : readProgram language text with
  | error fault => rfl
  | ok statements => exact absurd member ((readProgram_ok_iff language text statements).mp read).1

namespace ImportDeclaration

theorem unquote_written (literal : Literal) : unquote literal.written = unquote literal.inside := by
  unfold Literal.written
  exact unquote_surrounded _ _ literal.kinds

theorem toList_unquote (characters : List Char) :
    (unquote characters).toList = Text.dropEnds isQuote characters :=
  String.toList_ofList

/-- Quotes at the ends of a text are all that it loses, so it is kept where it has none there. -/
theorem unquote_eq_iff (characters : List Char) :
    unquote characters = String.ofList characters ↔ Text.Bare isQuote characters := by
  constructor
  · intro same
    have kept : Text.dropEnds isQuote characters = characters := String.ofList_injective same
    rw [← kept]
    exact Text.dropEnds_bare isQuote characters
  · exact fun bare => congrArg String.ofList (Text.dropEnds_of_bare isQuote characters bare)

end ImportDeclaration

theorem BannedImportRule.bans_alike_iff (first second : String) :
    (∀ rule : BannedImportRule, rule.bans first = rule.bans second) ↔ first = second := by
  constructor
  · intro alike
    have banned : BannedImportRule.bans ⟨"", second, .whole, ""⟩ first = true :=
      (alike _).trans (beq_self_eq_true second)
    exact beq_iff_eq.mp banned
  · rintro rfl rule
    rfl

namespace ImportEdge

open ImportDeclaration

variable (resolver : Resolver) (tree : FileTree) (importer : Path)

/-- A literal cannot hold the character zero: nothing is read from a text in which that stands. -/
theorem extract_nul (script : (Language.ofPath importer).isScript = true) {text : String}
    (member : nul ∈ text.toList) : ∃ line, extract resolver tree importer text =
      .error ⟨line, Language.ofPath importer⟩ := by
  unfold extract
  dsimp only
  rw [if_neg (by simp [script]), if_pos (parse_nul _ member)]
  exact ⟨_, rfl⟩

/-- A text that names a module by a literal, in any of the forms, is read as one import of that module.
Its specifier is the text of the literal without the quotes at the ends of that. So the specifier is
what is written, and every ban reaches it as it would reach what is written, exactly where the text
neither begins nor ends with a quote. Nothing is imported by a text with the character zero, which no
literal can hold. -/
theorem extract_written (script : (Language.ofPath importer).isScript = true) :
    (∀ (form : Form) (literal : Literal), let written := String.ofList literal.inside
      ∃ edge, extract resolver tree importer (form.text literal) = .ok [edge] ∧
        edge = ofDeclaration resolver tree importer (form.declaration edge.specifier) ∧
        Text.Bare isQuote edge.specifier.toList ∧
        (∃ front back, literal.inside = front ++ edge.specifier.toList ++ back ∧
          ∀ character ∈ front ++ back, isQuote character = true) ∧
        (edge.specifier = written ↔ Text.Bare isQuote literal.inside) ∧
        ((∀ rule : BannedImportRule, rule.bans edge.specifier = rule.bans written) ↔
          Text.Bare isQuote literal.inside)) ∧
    ∀ text : String, nul ∈ text.toList → ∃ line, extract resolver tree importer text =
      .error ⟨line, Language.ofPath importer⟩ := by
  refine ⟨fun form literal => ?_, fun text => extract_nul resolver tree importer script⟩
  intro written
  have parsed := parse_written (Language.ofPath importer) literal form
  have extracted := extract_whole resolver tree importer (form.text literal) script
    (by rw [parsed]; rfl)
  rw [parsed, form.collect_tree, unquote_written] at extracted
  have named : (ofDeclaration resolver tree importer
      (form.declaration (unquote literal.inside))).specifier = unquote literal.inside := by
    cases form <;> rfl
  refine ⟨_, extracted, by rw [named], ?_, ?_, ?_, ?_⟩
  · rw [named, toList_unquote]
    exact Text.dropEnds_bare isQuote literal.inside
  · rw [named, toList_unquote]
    exact Text.dropEnds_parts isQuote literal.inside
  · rw [named]
    exact unquote_eq_iff literal.inside
  · rw [named, BannedImportRule.bans_alike_iff]
    exact unquote_eq_iff literal.inside

def mixedLiteral : Literal where
  quote := '"'
  inside := "./it's".toList
  kinds := .inl rfl
  quotable := by decide

theorem extract_written_mixed : (Language.ofPath ⟨"/repo/src/f.ts"⟩).isScript = true ∧
    (Form.default "X".toList (by decide)).text mixedLiteral = "import X from \"./it's\"" ∧
    ∃ edge, extract ReachableSet.plainResolver {} ⟨"/repo/src/f.ts"⟩ "import X from \"./it's\"" =
      .ok [edge] ∧ edge.specifier = "./it's" ∧ edge.kind = .static := by
  have script : (Language.ofPath ⟨"/repo/src/f.ts"⟩).isScript = true := by decide
  have shown : (Form.default "X".toList (by decide)).text mixedLiteral = "import X from \"./it's\"" := by
    decide +kernel
  obtain ⟨edge, extracted, made, -, -, kept, -⟩ := (extract_written ReachableSet.plainResolver {}
    ⟨"/repo/src/f.ts"⟩ script).1 (.default "X".toList (by decide)) mixedLiteral
  rw [shown] at extracted
  exact ⟨script, shown, edge, extracted, kept.mpr (by decide), by rw [made]; rfl⟩

def nestedLiteral : Literal where
  quote := '"'
  inside := "'a'".toList
  kinds := .inl rfl
  quotable := by decide

/-- The one import of the text has lost the quotes of its specifier, and a ban of what is written does
not reach it. -/
theorem extract_nested :
    Form.bare.text nestedLiteral = "import \"'a'\"" ∧
      extract ReachableSet.plainResolver {} ⟨"/repo/src/f.ts"⟩ (Form.bare.text nestedLiteral) =
        .ok [⟨⟨"/repo/src/f.ts"⟩, "a", none, [], false, .sideEffect, 1⟩] ∧
      "a" ≠ String.ofList nestedLiteral.inside ∧
      BannedImportRule.bans { id := "quoted", specifier := "'a'" } "a" = false := by
  refine ⟨by decide +kernel, ?_, by decide, by decide⟩
  apply ReachableSet.ok_of_toOption
  decide +kernel

end ImportEdge

end UiContract
