import Mathlib.Algebra.GroupWithZero.Nat
import Mathlib.Algebra.Order.BigOperators.Group.List
import Mathlib.Algebra.Order.Group.Nat
import UiContract.Proofs.BudgetSelection
import UiContract.Proofs.Findings

/-!
What `evaluate` finds for a budget. A rule cannot be measured where its globs cannot be read, where a literal
is asked for and not given, where a walk comes to a directory that cannot be listed, or where no file is
selected; else every file that is over the ceiling is a finding of its own, or all of them together are one.
The sum of all is kept in 64 bits, so it says nothing where the files have more than that.
-/
namespace UiContract

namespace Checks

variable (tree : FileTree) (root : Path) (rule : BudgetRule)

def Readable [Engine] (patterns : List String) : Prop :=
  ∀ globs files, PathGlobs.compile patterns = .ok globs →
    budgetFiles tree root patterns globs = .ok files →
      ∀ file ∈ files, ∃ content, tree.readBytes file.path = .ok content

inductive Unmeasurable [Engine] : Prop where
  | glob (refusal : PathGlobs.Refusal) (refused : PathGlobs.compile rule.files = .error refusal)
  | literal (counts : rule.metric = .occurrences) (missing : rule.literal.getD "" = "")
  | walk (glob : String) (listed : glob ∈ rule.files) (ends : ¬ Listable tree (literalPath root glob))
  | files (globs : PathGlobs) (compiled : PathGlobs.compile rule.files = .ok globs)
      (none : budgetFiles tree root rule.files globs = .ok [])

def Measure.size (measure : Measure) (file : Selected) : Nat :=
  match tree.readBytes file.path with
  | .ok content => measure.count content
  | .error _ => 0

def fileOver (unit : String) (subject : String) (size : Nat) : Violation :=
  (Violation.error .budgets subject
    (toString size ++ " " ++ unit ++ " exceeds the " ++ rule.id ++ " budget of " ++
      toString rule.max)).withHint rule.hint

def totalOver (unit : String) (total files : Nat) : Violation :=
  (Violation.error .budgets rule.id
    (toString total ++ " " ++ unit ++ " across " ++ toString files ++
      " files exceeds the budget of " ++ toString rule.max)).withHint rule.hint

def Measure.total (measure : Measure) (files : List Selected) : Nat :=
  (files.map (measure.size tree)).sum

/-- What a rule says of files: one error for each that is over the ceiling, or one error for all of them,
where 64 bits hold their sum. -/
structure Judges (measure : Measure) (files : List Selected) (found : List Violation) : Prop where
  each : rule.aggregate = false → found =
    (files.filter fun file => rule.max < measure.size tree file).map fun file =>
      fileOver rule measure.unit file.relative (measure.size tree file)
  together : rule.aggregate = true → measure.total tree files < UInt64.size → found =
    if measure.total tree files ≤ rule.max then []
    else [totalOver rule measure.unit (measure.total tree files) files.length]

def raised (ceiling : Nat) : BudgetRule := { rule with max := ceiling }

theorem ofRule_raised (ceiling : Nat) : Measure.ofRule (raised rule ceiling) = Measure.ofRule rule := by
  unfold Measure.ofRule raised
  rfl

def summed : BudgetRule := { rule with aggregate := true }

theorem ofRule_summed : Measure.ofRule (summed rule) = Measure.ofRule rule := by
  unfold Measure.ofRule summed
  rfl

def withBudgets (context : CheckContext) (rules : List BudgetRule) : CheckContext :=
  { context with config := { context.config with budgets := rules } }

section Surveys

def Measure.ofFiles (measure : Measure) (files : List Selected) :
    Except BudgetError (List (String × Nat)) :=
  files.mapM fun file => do
    return (file.relative, ← measure.ofFile tree file.path)

def survey [Engine] (patterns : List String) (chosen : Except BudgetError Measure) :
    Except BudgetError (Measure × List (String × Nat)) := do
  let globs ← (PathGlobs.compile patterns).mapError .glob
  let measure ← chosen
  let files ← (budgetFiles tree root patterns globs).mapError .walk
  if files.isEmpty then throw (.noFiles patterns)
  return (measure, ← measure.ofFiles tree files)

/-- What a rule allows and whether it is for all files together only matters for what was surveyed. -/
theorem evaluateBudget_survey [Engine] : evaluateBudget tree root rule =
    (survey tree root rule.files (Measure.ofRule rule)).map fun surveyed =>
      overBudget rule surveyed.1.unit surveyed.2 := by
  unfold evaluateBudget survey
  cases PathGlobs.compile rule.files with
  | error refusal => rfl
  | ok globs =>
      cases Measure.ofRule rule with
      | error error => rfl
      | ok measure =>
          dsimp only [bind, Except.bind, mapError_ok]
          cases budgetFiles tree root rule.files globs with
          | error error => rfl
          | ok files =>
              dsimp only [mapError_ok]
              by_cases none : files.isEmpty = true
              · rw [if_pos none, if_pos none]
                rfl
              · rw [if_neg none, if_neg none]
                change Except.bind (measure.ofFiles tree files) _ = _
                cases measure.ofFiles tree files <;> rfl

theorem ofRule_error : (∃ error, Measure.ofRule rule = .error error) ↔
    rule.metric = .occurrences ∧ rule.literal.getD "" = "" := by
  unfold Measure.ofRule
  cases rule.metric with
  | bytes => simp
  | occurrences =>
      cases rule.literal with
      | none => simp
      | some literal => by_cases empty : literal = "" <;> simp [empty]

variable {tree root rule} [Engine] {globs : PathGlobs} {measure : Measure} {files : List Selected}

theorem survey_cases (tree : FileTree) (root : Path) (rule : BudgetRule) :
    (Unmeasurable tree root rule ∧
      ∃ error, survey tree root rule.files (Measure.ofRule rule) = .error error) ∨
    ∃ globs measure files, PathGlobs.compile rule.files = .ok globs ∧ Measure.ofRule rule = .ok measure ∧
      budgetFiles tree root rule.files globs = .ok files ∧ files ≠ [] := by
  unfold survey
  cases compiled : PathGlobs.compile rule.files with
  | error refusal => exact .inl ⟨.glob refusal compiled, .glob refusal, rfl⟩
  | ok globs =>
      cases chosen : Measure.ofRule rule with
      | error error =>
          obtain ⟨counts, missing⟩ := (ofRule_error rule).mp ⟨error, chosen⟩
          exact .inl ⟨.literal counts missing, error, rfl⟩
      | ok measure =>
          cases selected : budgetFiles tree root rule.files globs with
          | error error =>
              have stopped : ¬ ∀ glob ∈ rule.files, Listable tree (literalPath root glob) := by
                intro all
                obtain ⟨files, same⟩ : ∃ files, budgetFiles tree root rule.files globs = .ok files :=
                  budgetFiles_ok_iff.mpr all
                rw [selected] at same
                contradiction
              obtain ⟨glob, listed, ends⟩ := by simpa only [not_forall] using stopped
              refine .inl ⟨.walk glob listed ends, .walk error, ?_⟩
              dsimp only [bind, Except.bind, mapError_ok]
              rw [selected, mapError_error]
          | ok files =>
              by_cases none : files = []
              · subst none
                refine .inl ⟨.files globs compiled selected, .noFiles rule.files, ?_⟩
                dsimp only [bind, Except.bind, mapError_ok]
                rw [selected, mapError_ok]
                rfl
              · exact .inr ⟨globs, measure, files, rfl, rfl, selected, none⟩

omit [Engine] in
theorem Measure.ofFile_size (measure : Measure) (file : Selected)
    (readable : ∃ content, tree.readBytes file.path = .ok content) :
    measure.ofFile tree file.path = .ok (measure.size tree file) := by
  obtain ⟨content, read⟩ := readable
  unfold Measure.ofFile Measure.size
  rw [read]

theorem survey_ok {patterns : List String} (readable : Readable tree root patterns)
    (compiled : PathGlobs.compile patterns = .ok globs)
    (selected : budgetFiles tree root patterns globs = .ok files) (some : files ≠ []) :
    survey tree root patterns (.ok measure) = .ok (measure,
      files.map fun file => (file.relative, measure.size tree file)) := by
  have measured : measure.ofFiles tree files = .ok
      (files.map fun file => (file.relative, measure.size tree file)) := by
    unfold Measure.ofFiles
    rw [mapM_ok_iff, List.forall₂_map_right_iff, List.forall₂_same]
    intro file member
    rw [measure.ofFile_size file (readable globs files compiled selected file member)]
    rfl
  unfold survey
  rw [compiled]
  dsimp only [bind, Except.bind, mapError_ok]
  rw [selected, mapError_ok]
  dsimp only
  rw [if_neg (by simpa using some), measured]
  rfl

theorem Unmeasurable.elim (failed : Unmeasurable tree root rule)
    (compiled : PathGlobs.compile rule.files = .ok globs) (chosen : Measure.ofRule rule = .ok measure)
    (selected : budgetFiles tree root rule.files globs = .ok files) (some : files ≠ []) : False := by
  cases failed with
  | glob refusal refused =>
      rw [compiled] at refused
      contradiction
  | literal counts missing =>
      obtain ⟨error, refused⟩ := (ofRule_error rule).mpr ⟨counts, missing⟩
      rw [chosen] at refused
      contradiction
  | walk glob listed ends => exact ends (budgetFiles_ok_iff.mp ⟨files, selected⟩ glob listed)
  | files others compiled' none =>
      -- Both sets of globs were read from the same list.
      obtain rfl := Except.ok.inj (compiled.symm.trans compiled')
      exact some (Except.ok.inj (selected.symm.trans none))

end Surveys

section Evaluations

variable [Engine] {tree root rule} {globs : PathGlobs} {measure : Measure} {files : List Selected}

theorem evaluateBudget_eq (rule : BudgetRule) (readable : Readable tree root rule.files)
    (compiled : PathGlobs.compile rule.files = .ok globs) (chosen : Measure.ofRule rule = .ok measure)
    (selected : budgetFiles tree root rule.files globs = .ok files) (some : files ≠ []) :
    evaluateBudget tree root rule = .ok (overBudget rule measure.unit
      (files.map fun file => (file.relative, measure.size tree file))) := by
  rw [evaluateBudget_survey, chosen, survey_ok readable compiled selected some]
  rfl

theorem evaluateBudget_walk (compiled : PathGlobs.compile rule.files = .ok globs)
    (chosen : Measure.ofRule rule = .ok measure) {glob : String} (listed : glob ∈ rule.files)
    (ends : ¬ Listable tree (literalPath root glob)) :
    ∃ error, evaluateBudget tree root rule = .error (.walk error) := by
  unfold evaluateBudget
  rw [compiled, chosen]
  dsimp only [bind, Except.bind, mapError_ok]
  cases selected : budgetFiles tree root rule.files globs with
  | error error => exact ⟨error, rfl⟩
  | ok files => exact absurd (budgetFiles_ok_iff.mp ⟨files, selected⟩ glob listed) ends

theorem evaluateBudget_error (readable : Readable tree root rule.files) :
    (∃ error, evaluateBudget tree root rule = .error error) ↔ Unmeasurable tree root rule := by
  rcases survey_cases tree root rule with
    ⟨unmeasurable, error, failed⟩ | ⟨globs, measure, files, compiled, chosen, selected, some⟩
  · refine ⟨fun _ => unmeasurable, fun _ => ⟨error, ?_⟩⟩
    rw [evaluateBudget_survey, failed]
    rfl
  · rw [evaluateBudget_eq rule readable compiled chosen selected some]
    exact ⟨nofun, fun failed => (failed.elim compiled chosen selected some).elim⟩

theorem evaluateBudget_error_congr (rule other : BudgetRule) {error : BudgetError}
    (files : other.files = rule.files) (measure : Measure.ofRule other = Measure.ofRule rule)
    (failed : evaluateBudget tree root rule = .error error) :
    evaluateBudget tree root other = .error error := by
  rw [evaluateBudget_survey] at failed ⊢
  rw [files, measure]
  cases surveyed : survey tree root rule.files (Measure.ofRule rule) with
  | ok sizes =>
      rw [surveyed] at failed
      contradiction
  | error reason =>
      rw [surveyed] at failed
      exact failed

theorem evaluateBudget_ok {found : List Violation} (readable : Readable tree root rule.files)
    (evaluated : evaluateBudget tree root rule = .ok found) :
    ∃ globs measure files, PathGlobs.compile rule.files = .ok globs ∧
      Measure.ofRule rule = .ok measure ∧ budgetFiles tree root rule.files globs = .ok files ∧
      files ≠ [] ∧ found = overBudget rule measure.unit
        (files.map fun file => (file.relative, measure.size tree file)) := by
  rcases survey_cases tree root rule with
    ⟨-, error, failed⟩ | ⟨globs, measure, files, compiled, chosen, selected, some⟩
  · rw [evaluateBudget_survey, failed] at evaluated
    contradiction
  · rw [evaluateBudget_eq rule readable compiled chosen selected some] at evaluated
    exact ⟨globs, measure, files, compiled, chosen, selected, some, (Except.ok.inj evaluated).symm⟩

end Evaluations

section Ceilings

variable {tree rule} {measure : Measure} {files : List Selected} {unit : String}
  {measured : List (String × Nat)}

theorem totalOf_eq (measured : List (String × Nat)) :
    totalOf measured = (measured.map Prod.snd).sum % UInt64.size := by
  unfold totalOf
  induction measured with
  | nil => rfl
  | cons first others ih =>
      rw [List.foldr_cons, UInt64.toNat_add, ih, UInt64.toNat_ofNat', List.map_cons, List.sum_cons]
      exact (Nat.add_mod _ _ _).symm

theorem totalOf_sizes (measure : Measure) (files : List Selected) :
    totalOf (files.map fun file => (file.relative, measure.size tree file)) =
      measure.total tree files % UInt64.size := by
  rw [totalOf_eq, List.map_map]
  rfl

theorem overBudget_each (alone : rule.aggregate = false) : overBudget rule unit measured =
    (measured.filter fun entry => rule.max < entry.2).map fun entry =>
      fileOver rule unit entry.1 entry.2 := by
  unfold overBudget
  rw [alone, if_neg Bool.false_ne_true]
  rfl

theorem overBudget_together (all : rule.aggregate = true) : overBudget rule unit measured =
    if totalOf measured ≤ rule.max then []
    else [totalOver rule unit (totalOf measured) measured.length] := by
  unfold overBudget
  dsimp only
  rw [all, if_pos rfl]
  rfl

theorem overBudget_judges (rule : BudgetRule) (measure : Measure) (files : List Selected) :
    Judges tree rule measure files (overBudget rule measure.unit
      (files.map fun file => (file.relative, measure.size tree file))) where
  each alone := by
    rw [overBudget_each alone, List.filter_map, List.map_map]
    rfl
  together all held := by
    rw [overBudget_together all, totalOf_sizes, Nat.mod_eq_of_lt held, List.length_map]

theorem overBudget_error : ∀ violation ∈ overBudget rule unit measured, violation.level = .error := by
  intro violation member
  cases whole : rule.aggregate with
  | false =>
      rw [overBudget_each whole] at member
      obtain ⟨entry, -, rfl⟩ := List.mem_map.mp member
      simp [fileOver]
  | true =>
      rw [overBudget_together whole] at member
      split at member
      · contradiction
      · rw [List.mem_singleton.mp member]
        simp [totalOver]

theorem overBudget_sublist {ceiling : Nat} (higher : rule.max ≤ ceiling) :
    ((overBudget (raised rule ceiling) unit measured).map Violation.subject).Sublist
      ((overBudget rule unit measured).map Violation.subject) := by
  cases whole : rule.aggregate with
  | false =>
      have subjects : ∀ rule : BudgetRule, Violation.subject ∘ (fun entry : String × Nat =>
          fileOver rule unit entry.1 entry.2) = Prod.fst := by
        intro rule
        funext entry
        simp [fileOver]
      have whole' : (raised rule ceiling).aggregate = false := whole
      rw [overBudget_each whole, overBudget_each whole', List.map_map, List.map_map, subjects, subjects]
      refine List.Sublist.map _ (List.monotone_filter_right measured fun entry exceeding => ?_)
      exact decide_eq_true (Nat.lt_of_le_of_lt higher (of_decide_eq_true exceeding))
  | true =>
      have whole' : (raised rule ceiling).aggregate = true := whole
      rw [overBudget_together whole, overBudget_together whole']
      by_cases within : totalOf measured ≤ rule.max
      · have below : totalOf measured ≤ (raised rule ceiling).max := Nat.le_trans within higher
        rw [if_pos within, if_pos below]
      · -- The one finding for all files is shown by the id of the rule, whatever the ceiling is.
        rw [if_neg within]
        split
        · exact List.nil_sublist _
        · simp [totalOver, raised]

theorem overBudget_summed (alone : rule.aggregate = false)
    (held : measure.total tree files < UInt64.size)
    (some : overBudget rule measure.unit
      (files.map fun file => (file.relative, measure.size tree file)) ≠ []) :
    ∃ violation, overBudget (summed rule) measure.unit
      (files.map fun file => (file.relative, measure.size tree file)) = [violation] := by
  rw [(overBudget_judges rule measure files).each alone] at some
  obtain ⟨violation, member⟩ := List.exists_mem_of_ne_nil _ some
  obtain ⟨file, exceeding, -⟩ := List.mem_map.mp member
  obtain ⟨selected, exceeds⟩ := List.mem_filter.mp exceeding
  have part : measure.size tree file ≤ measure.total tree files :=
    List.single_le_sum (fun _ _ => Nat.zero_le _) _ (List.mem_map_of_mem selected)
  rw [(overBudget_judges (summed rule) measure files).together rfl held, if_neg]
  · exact ⟨_, rfl⟩
  · exact Nat.not_le_of_lt (Nat.lt_of_lt_of_le (of_decide_eq_true exceeds) part)

end Ceilings

section Rules

variable [Engine]

theorem budgets_of_error (context : CheckContext) {rule : BudgetRule} {earlier later : List BudgetRule}
    {error : BudgetError} (listed : context.config.budgets = earlier ++ rule :: later)
    (failed : evaluateBudget context.tree context.root rule = .error error) :
    budgets context = budgets (withBudgets context earlier) ++
      Violation.configuration .budgets rule.id error.message :: budgets (withBudgets context later) := by
  unfold budgets
  rw [listed, List.flatMap_append, List.flatMap_cons, failed]
  rfl

/-- A rule whose files can be read fails where its globs cannot be read, a literal is missing, a directory
that a walk enters cannot be listed or no file is selected. Else it finds an error for each file that is over
the ceiling, in the order of the paths, or one error for all of them. Under a higher ceiling nothing is found
that was not, and what was found of one file is found of all of them, where 64 bits hold the sum. In the check
a rule that fails is one error, and the other rules find what they would find without it. -/
theorem budgets_exact (context : CheckContext) (rule : BudgetRule)
    (readable : Readable context.tree context.root rule.files) :
    let evaluate := evaluateBudget context.tree context.root
    ((∃ error, evaluate rule = .error error) ↔ Unmeasurable context.tree context.root rule) ∧
    (∀ found, evaluate rule = .ok found → ∃ globs measure files,
      PathGlobs.compile rule.files = .ok globs ∧ Measure.ofRule rule = .ok measure ∧
      budgetFiles context.tree context.root rule.files globs = .ok files ∧
      files.Pairwise (fun earlier later => compare earlier later = .lt) ∧
      Judges context.tree rule measure files found ∧ (∀ violation ∈ found, violation.level = .error) ∧
      (rule.aggregate = false → measure.total context.tree files < UInt64.size → found ≠ [] →
        ∃ violation, evaluate (summed rule) = .ok [violation])) ∧
    (∀ ceiling, rule.max ≤ ceiling →
      (∀ error, evaluate rule = .error error → evaluate (raised rule ceiling) = .error error) ∧
      ∀ found, evaluate rule = .ok found → ∃ fewer, evaluate (raised rule ceiling) = .ok fewer ∧
        (fewer.map Violation.subject).Sublist (found.map Violation.subject)) ∧
    ∀ earlier later error, context.config.budgets = earlier ++ rule :: later →
      evaluate rule = .error error → budgets context =
        budgets (withBudgets context earlier) ++
          Violation.configuration .budgets rule.id error.message ::
            budgets (withBudgets context later) := by
  intro evaluate
  refine ⟨evaluateBudget_error readable, fun found evaluated => ?_, fun ceiling higher => ⟨?_, ?_⟩, ?_⟩
  · obtain ⟨globs, measure, files, compiled, chosen, selected, some, rfl⟩ :=
      evaluateBudget_ok readable evaluated
    refine ⟨globs, measure, files, compiled, chosen, selected, budgetFiles_sorted selected,
      overBudget_judges rule measure files, overBudget_error, fun alone held occupied => ?_⟩
    obtain ⟨violation, single⟩ := overBudget_summed alone held occupied
    refine ⟨violation, single ▸ ?_⟩
    exact evaluateBudget_eq (summed rule) readable compiled ((ofRule_summed rule).trans chosen) selected some
  · exact fun error failed => evaluateBudget_error_congr rule (raised rule ceiling) rfl
      (ofRule_raised rule ceiling) failed
  · intro found evaluated
    obtain ⟨globs, measure, files, compiled, chosen, selected, some, rfl⟩ :=
      evaluateBudget_ok readable evaluated
    exact ⟨_, evaluateBudget_eq (raised rule ceiling) readable compiled
      ((ofRule_raised rule ceiling).trans chosen) selected some, overBudget_sublist higher⟩
  · exact fun earlier later error listed failed => budgets_of_error context listed failed

end Rules

section Sheets

open FileTree

attribute [local instance] Engine.rough

def sheetTree : FileTree where
  entries := .ofList [(["dist".toList], .directory), (["dist".toList, "a.css".toList], .file [65]),
    (["dist".toList, "b.css".toList], .file [65, 66]), (["dist".toList, "bundles".toList], .directory)]

theorem sheetTree_plain : sheetTree.Plain where
  named := by decide
  rooted := by decide
  unlinked := by decide

def sheetRule : BudgetRule :=
  { id := "css", metric := .bytes, files := ["dist/*.css"], max := 1 }

def sheetContext : CheckContext where
  tree := sheetTree
  root := ⟨"/"⟩
  config := { schemaVersion := 1, sourceRoot := ".", entries := ["a.ts"], extensions := [".ts"],
              budgets := [sheetRule] }
  reachable := { root := ⟨"/"⟩, entries := [], files := {}, graph := {} }

theorem budgets_exact_sheets : Readable sheetTree ⟨"/"⟩ sheetRule.files ∧
    ∃ found, evaluateBudget sheetTree ⟨"/"⟩ sheetRule = .ok found ∧
      found.map Violation.subject = ["dist/b.css"] ∧
      ∃ fewer, evaluateBudget sheetTree ⟨"/"⟩ (raised sheetRule 2) = .ok fewer ∧
        (fewer.map Violation.subject).Sublist ["dist/b.css"] := by
  have readable : Readable sheetTree ⟨"/"⟩ sheetRule.files := by
    have computed : (PathGlobs.compile sheetRule.files).toOption.all (fun globs =>
        (budgetFiles sheetTree ⟨"/"⟩ sheetRule.files globs).toOption.all fun files =>
          files.all fun file => (sheetTree.readBytes file.path).isOk) = true := by decide
    intro globs files compiled selected file member
    rw [compiled, Except.toOption, Option.all_some, selected, Except.toOption, Option.all_some] at computed
    have read := List.all_eq_true.mp computed file member
    exact ⟨_, ok_getD_of_isOk read []⟩
  obtain ⟨-, -, ceilings, -⟩ := budgets_exact sheetContext sheetRule readable
  have computed : (evaluateBudget sheetTree ⟨"/"⟩ sheetRule).toOption.map
      (fun found => found.map Violation.subject) = some ["dist/b.css"] := by decide
  cases evaluated : evaluateBudget sheetTree ⟨"/"⟩ sheetRule with
  | error error =>
      rw [evaluated] at computed
      contradiction
  | ok found =>
      rw [evaluated] at computed
      have subjects : found.map Violation.subject = ["dist/b.css"] := Option.some.inj computed
      obtain ⟨fewer, evaluated', below⟩ := (ceilings 2 (by decide)).2 found evaluated
      exact ⟨readable, found, rfl, subjects, fewer, evaluated', subjects ▸ below⟩

theorem read_dist {name : Name} (named : PlainName name) {bytes : List UInt8}
    (held : sheetTree.entry? ["dist".toList, name] = some (.file bytes)) (brief : Text.byteSize name ≤ 5) :
    sheetTree.readBytes ((distPath 4085).join (String.ofList name)) = .ok bytes := by
  have start := locate_dist 4085 sheetTree_plain.linkless (by decide) (by decide) (by decide)
  have longest := Path.byteSize_join_le (dist_written 4085 (by decide)) (String.ofList name)
    named.plain.relative
  rw [byteSize_dist 4085 (by decide), String.toList_ofList] at longest
  have short : Text.byteSize ((distPath 4085).join (String.ofList name)).text.toList < pathLimit :=
    Nat.lt_of_le_of_lt longest (Nat.lt_of_le_of_lt (Nat.add_le_add_left brief _) (by decide))
  have located := locate_entry sheetTree_plain.linkless _ start name named held short
  unfold readBytes look
  rw [located]
  dsimp only [bind, Except.bind]
  rw [List.singleton_append, held]
  rfl

theorem sheets_readable (place : List Name) (bytes : List UInt8)
    (held : sheetTree.entry? place = some (.file bytes)) : ∃ name, place = ["dist".toList, name] ∧
      sheetTree.readBytes ((distPath 4085).join (String.ofList name)) = .ok bytes := by
  have some : place ≠ [] := by
    rintro rfl
    exact nomatch held
  have listed : sheetTree.entries.entries = [(["dist".toList], .directory),
      (["dist".toList, "a.css".toList], .file [65]), (["dist".toList, "b.css".toList], .file [65, 66]),
      (["dist".toList, "bundles".toList], .directory)] := by decide
  have member := mem_of_entry held some
  rw [listed] at member
  simp only [List.mem_cons, Prod.mk.injEq, reduceCtorEq, and_false, List.not_mem_nil, false_or,
    or_false] at member
  obtain ⟨rfl, -⟩ | ⟨rfl, -⟩ := member
  · exact ⟨_, rfl, read_dist (by decide) held (by decide)⟩
  · exact ⟨_, rfl, read_dist (by decide) held (by decide)⟩

def heavyTree (content : List UInt8) : FileTree where
  entries := .ofList [(["a".toList], .file content), (["b".toList], .file content),
    (["c".toList], .file content)]

theorem entriesBelow_heavy (content : List UInt8) : entriesBelow (heavyTree content) [] =
    [⟨["a".toList], .file content⟩, ⟨["b".toList], .file content⟩, ⟨["c".toList], .file content⟩] := by
  rfl

theorem filesBelow_heavy (content : List UInt8) :
    filesBelow (heavyTree content) ⟨"/"⟩ = .ok [⟨"/a"⟩, ⟨"/b"⟩, ⟨"/c"⟩] := by
  have top : (heavyTree content).locate ⟨"/"⟩ = .ok [] := rfl
  have held : FileTree.entry? (heavyTree content) [] = some .directory := rfl
  unfold filesBelow
  rw [top]
  dsimp only
  rw [held]
  dsimp only
  rw [entriesBelow_heavy]
  rfl

def heavyRule : BudgetRule :=
  { id := "bin", metric := .bytes, files := ["*"], max := 2 ^ 63 - 2 }

theorem heavy_evaluated (content : List UInt8) (rule : BudgetRule) (files : rule.files = ["*"])
    (metric : rule.metric = .bytes) : evaluateBudget (heavyTree content) ⟨"/"⟩ rule =
      .ok (overBudget rule "bytes" (["a", "b", "c"].map fun name => (name, content.length))) := by
  have measure : Measure.ofRule rule = .ok .bytes := by
    unfold Measure.ofRule
    rw [metric]
  have compiled : PathGlobs.compile ["*"] = .ok ((PathGlobs.compile ["*"]).toOption.getD ⟨[]⟩) :=
    ok_getD_of_isOk (by decide) _
  have selected : budgetFiles (heavyTree content) ⟨"/"⟩ ["*"]
      ((PathGlobs.compile ["*"]).toOption.getD ⟨[]⟩) =
        .ok [⟨"a", ⟨"/a"⟩⟩, ⟨"b", ⟨"/b"⟩⟩, ⟨"c", ⟨"/c"⟩⟩] := by
    have starts : searchStarts ⟨"/"⟩ ["*"] = [⟨"/"⟩] := by decide
    have chosen : [Path.mk "/a", ⟨"/b"⟩, ⟨"/c"⟩].filterMap (Selected.ofPath? ⟨"/"⟩
        ((PathGlobs.compile ["*"]).toOption.getD ⟨[]⟩)) =
          [⟨"a", ⟨"/a"⟩⟩, ⟨"b", ⟨"/b"⟩⟩, ⟨"c", ⟨"/c"⟩⟩] := by decide
    have sorted : sortedDistinct [(⟨"a", ⟨"/a"⟩⟩ : Selected), ⟨"b", ⟨"/b"⟩⟩, ⟨"c", ⟨"/c"⟩⟩] =
        [⟨"a", ⟨"/a"⟩⟩, ⟨"b", ⟨"/b"⟩⟩, ⟨"c", ⟨"/c"⟩⟩] := by decide
    unfold budgetFiles
    rw [starts, List.mapM_cons, filesBelow_heavy, List.mapM_nil]
    dsimp only [bind, Except.bind, pure, Except.pure]
    rw [List.flatten_singleton, chosen, sorted]
  unfold evaluateBudget
  rw [files, measure, compiled]
  dsimp only [bind, Except.bind, mapError_ok]
  rw [selected]
  rfl

theorem heavy_held (content : List UInt8) (place : List Name) (bytes : List UInt8)
    (held : FileTree.entry? (heavyTree content) place = some (.file bytes)) : bytes = content := by
  have some : place ≠ [] := by
    rintro rfl
    exact nomatch held
  have listed : (heavyTree content).entries.entries = [(["a".toList], .file content),
      (["b".toList], .file content), (["c".toList], .file content)] := rfl
  have member := mem_of_entry held some
  rw [listed] at member
  simp only [List.mem_cons, Prod.mk.injEq, Entry.file.injEq, List.not_mem_nil, or_false] at member
  obtain ⟨-, same⟩ | ⟨-, same⟩ | ⟨-, same⟩ := member <;> exact same

theorem heavy_over {content : List UInt8} (size : content.length = 2 ^ 63 - 1) :
    ∃ found, evaluateBudget (heavyTree content) ⟨"/"⟩ heavyRule = .ok found ∧ found.length = 3 := by
  refine ⟨_, heavy_evaluated content heavyRule rfl rfl, ?_⟩
  rw [overBudget_each rfl, List.length_map, List.filter_eq_self.mpr, List.length_map]
  · rfl
  · intro entry member
    obtain ⟨name, -, rfl⟩ := List.mem_map.mp member
    exact decide_eq_true (size ▸ (by decide : (2 ^ 63 - 2 : Nat) < 2 ^ 63 - 1))

theorem heavy_wraps {content : List UInt8} (size : content.length = 2 ^ 63 - 1) :
    evaluateBudget (heavyTree content) ⟨"/"⟩ (summed heavyRule) = .ok [] := by
  rw [heavy_evaluated content (summed heavyRule) rfl rfl, overBudget_together rfl, if_pos]
  rw [totalOf_eq, List.map_map]
  simp only [List.map_cons, List.map_nil, Function.comp_apply, size]
  decide

/-- A rule fails though its files can be read and its globs match one, where a directory beside them has too
long a path; and three files of as many bytes as a file can have are over a ceiling that their sum, which
wraps around, is not over. -/
theorem budgets_inexact :
    ((∀ place bytes, sheetTree.entry? place = some (.file bytes) → ∃ name, place = ["dist".toList, name] ∧
        sheetTree.readBytes ((distPath 4085).join (String.ofList name)) = .ok bytes) ∧
      (∃ globs, PathGlobs.compile sheetRule.files = .ok globs ∧
        Matches sheetTree (slashes 4085) "dist/*.css" globs ["dist".toList, "b.css".toList]) ∧
      ∃ error, evaluateBudget sheetTree (slashes 4085) sheetRule = .error (.walk error)) ∧
    ∃ content : List UInt8, content.length = 2 ^ 63 - 1 ∧
      (∀ place bytes, FileTree.entry? (heavyTree content) place = some (.file bytes) → bytes = content) ∧
      (∃ found, evaluateBudget (heavyTree content) ⟨"/"⟩ heavyRule = .ok found ∧ found.length = 3) ∧
      evaluateBudget (heavyTree content) ⟨"/"⟩ (summed heavyRule) = .ok [] := by
  refine ⟨⟨sheets_readable, ?_, ?_⟩, List.replicate (2 ^ 63 - 1) 65, List.length_replicate,
    heavy_held _, heavy_over List.length_replicate, heavy_wraps List.length_replicate⟩
  · refine ⟨_, ok_getD_of_isOk (by decide) ⟨[]⟩, ⟨[], [65, 66], ?_, by decide⟩, by decide, by decide⟩
    exact locate_slashes sheetTree_plain.linkless (by decide) (by decide)
  · have compiled : PathGlobs.compile sheetRule.files =
        .ok ((PathGlobs.compile sheetRule.files).toOption.getD ⟨[]⟩) := ok_getD_of_isOk (by decide) _
    have unlistable : ¬ Listable sheetTree (literalPath (slashes 4085) "dist/*.css") := by
      rw [literalPath_dist 4085 (by decide)]
      exact unlistable_dist "bundles".toList 4085 sheetTree_plain (by decide) (by decide) (by decide)
        (by decide) (by decide) (by decide) (by decide)
    have chosen : Measure.ofRule sheetRule = .ok .bytes := rfl
    exact evaluateBudget_walk compiled chosen (List.mem_singleton_self _) unlistable

end Sheets

end Checks

end UiContract
