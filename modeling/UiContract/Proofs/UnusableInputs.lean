import UiContract.Proofs.Preparation
import UiContract.Proofs.Selection

/-!
Inputs of a check that cannot be used. Whatever is wrong with a table, a glob, a pattern or a directory,
the run takes place and the check that needs it says so; for the rest the report is that of a run whose
configuration does not ask for what cannot be used.
-/
namespace UiContract

namespace SortedMap

variable {Key Value : Type} [Ord Key]

def restrict (map : SortedMap Key Value) (keep : Key → Bool) : SortedMap Key Value :=
  ⟨map.entries.filter fun entry => keep entry.1, map.ascending.filter _⟩

theorem find_restrict [Std.LawfulEqOrd Key] (map : SortedMap Key Value) (keep : Key → Bool)
    (key : Key) (kept : keep key = true) : (map.restrict keep).find? key = map.find? key := by
  unfold find? restrict
  rw [List.find?_filter]
  congr 1
  apply List.find?_congr
  intro entry member
  by_cases same : compare key entry.1 = .eq
  · rw [← Std.LawfulEqOrd.eq_of_compare same]
    simp [kept]
  · simp [same]

end SortedMap

namespace Registry

inductive Faulty (tree : FileTree) (path : Path) : Prop where
  | missing (reason : FileError) (unread : tree.readText path = .error reason)
  | unparsable (text message : String) (read : tree.readText path = .ok text)
      (refused : Json.decode (Json.table RegistryTable.record) text = .error message)
  | version (table : RegistryTable)
      (read : Table.read (Json.table RegistryTable.record) tree path = .ok table)
      (other : table.schemaVersion ≠ 1)
  | nameless (table : RegistryTable)
      (read : Table.read (Json.table RegistryTable.record) tree path = .ok table)
      (entry : RegistryEntry) (listed : entry ∈ table.components) (blank : Text.trim entry.name = "")
  | duplicate (table : RegistryTable)
      (read : Table.read (Json.table RegistryTable.record) tree path = .ok table)
      (repeated : ¬ (table.components.map fun entry => Text.trim entry.name).Nodup)

theorem foldlM_add (entries : List RegistryEntry) (registry larger : Registry)
    (added : entries.foldlM add registry = .ok larger) :
    (∀ entry ∈ entries, Text.trim entry.name ≠ "" ∧
      registry.entries.contains (Text.trim entry.name) = false) ∧
    (entries.map fun entry => Text.trim entry.name).Nodup := by
  induction entries generalizing registry with
  | nil => exact ⟨nofun, .nil⟩
  | cons first rest ih =>
      rw [List.foldlM_cons] at added
      unfold add at added
      dsimp only at added
      split at added
      · contradiction
      · rename_i named
        split at added
        · contradiction
        · rename_i fresh
          obtain ⟨later, distinct⟩ := ih _ added
          simp only [← Bool.not_eq_true, SortedMap.contains_insert, not_or] at later ⊢
          constructor
          · intro entry member
            rcases List.mem_cons.mp member with rfl | inside
            · exact ⟨by simpa using named, fresh⟩
            · exact ⟨(later entry inside).1, (later entry inside).2.2⟩
          · rw [List.map_cons, List.nodup_cons]
            refine ⟨?_, distinct⟩
            intro again
            obtain ⟨entry, inside, same⟩ := List.mem_map.mp again
            apply (later entry inside).2.1
            rw [same]
            exact Std.ReflCmp.compare_self

theorem load_faulty (tree : FileTree) (path : Path) (faulty : Faulty tree path) :
    ∃ error, load tree path = .error error := by
  have listed : ∀ table, Table.read (Json.table RegistryTable.record) tree path = .ok table →
      (∀ registry, ofEntries table.components ≠ .ok registry) →
      ∃ error, load tree path = .error error := by
    intro table read refused
    unfold load
    rw [read]
    dsimp only
    split
    · exact ⟨_, rfl⟩
    · cases loaded : ofEntries table.components with
      | error error => exact ⟨error, rfl⟩
      | ok registry => exact absurd loaded (refused registry)
  cases faulty with
  | missing reason unread =>
      unfold load Table.read
      rw [unread]
      exact ⟨_, rfl⟩
  | unparsable text message read refused =>
      unfold load Table.read
      rw [read]
      dsimp only
      rw [refused]
      exact ⟨_, rfl⟩
  | version table read other =>
      unfold load
      rw [read]
      dsimp only
      rw [if_pos (by simpa [RegistryTable.currentVersion] using other)]
      exact ⟨_, rfl⟩
  | nameless table read entry member blank =>
      refine listed table read fun registry loaded => ?_
      exact ((foldlM_add _ _ _ loaded).1 entry member).1 blank
  | duplicate table read repeated =>
      exact listed table read fun registry loaded => repeated (foldlM_add _ _ _ loaded).2

end Registry

/-- The findings are those that are found without a certain input, and errors of the check that say
that something cannot be used. One such error there is. -/
structure Check.Blames (check : Check) (found spared : List Violation) : Prop where
  told : ∃ subject message, Violation.configuration check subject message ∈ found
  rest : ∃ errors, found.Perm (errors ++ spared) ∧
    ∀ error ∈ errors, ∃ subject message, error = Violation.configuration check subject message

def PatternsSection.withRules (sect : PatternsSection) (removed : String) (rules : List PatternRule) :
    PatternsSection :=
  { sect with
    rules, exceptions := sect.exceptions.restrict fun id => id != removed || rules.any (·.id == id) }

/-- An input that one check needs and cannot use, with the configuration that does not ask for it. -/
inductive Unusable [Engine] (tree : FileTree) (root : Path) (config : GateConfig) :
    Check → GateConfig → Prop where
  | registryTable (sect : RegistrySection) (configured : config.registry = some sect)
      (faulty : Registry.Faulty tree (root.normalize.join sect.table)) :
      Unusable tree root config .registry { config with registry := none }
  | registryGlob (sect : RegistrySection) (configured : config.registry = some sect)
      (refusal : PathGlobs.Refusal) (refused : PathGlobs.compile sect.ignore = .error refusal) :
      Unusable tree root config .registry { config with registry := none }
  | scanGlob (sect : PatternsSection) (configured : config.patterns = some sect)
      (refusal : PathGlobs.Refusal) (refused : PathGlobs.compile sect.scan = .error refusal) :
      Unusable tree root config .patterns { config with patterns := none }
  | pattern (sect : PatternsSection) (configured : config.patterns = some sect)
      (earlier : List PatternRule) (rule : PatternRule) (later : List PatternRule)
      (listed : sect.rules = earlier ++ rule :: later)
      (error : RegexError) (refused : Regex.compile rule.pattern = .error error) :
      Unusable tree root config .patterns
        { config with patterns := some (sect.withRules rule.id (earlier ++ later)) }
  | exceptionGlob (sect : PatternsSection) (configured : config.patterns = some sect)
      (earlier : List PatternRule) (rule : PatternRule) (later : List PatternRule)
      (listed : sect.rules = earlier ++ rule :: later)
      (globs : List String) (spared : sect.exceptions.find? rule.id = some globs)
      (refusal : PathGlobs.Refusal) (refused : PathGlobs.compile globs = .error refusal) :
      Unusable tree root config .patterns
        { config with patterns := some (sect.withRules rule.id (earlier ++ later)) }
  | strayException (sect : PatternsSection) (configured : config.patterns = some sect)
      (id : String) (stray : ∀ rule ∈ sect.rules, rule.id ≠ id)
      (globs : List String) (spared : sect.exceptions.find? id = some globs)
      (refusal : PathGlobs.Refusal) (refused : PathGlobs.compile globs = .error refusal) :
      Unusable tree root config .patterns
        { config with patterns := some (sect.withRules id sect.rules) }
  | exemptGlob (sect : ShellSection) (configured : config.shell = some sect)
      (refusal : PathGlobs.Refusal) (refused : PathGlobs.compile sect.exempt = .error refusal) :
      Unusable tree root config .shell { config with shell := none }
  | wrapperPattern (sect : ShellSection) (configured : config.shell = some sect)
      (error : RegexError) (refused : wrapperRegex sect.wrappers = .error error) :
      Unusable tree root config .shell { config with shell := none }
  | routesDirectory (sect : ShellSection) (configured : config.shell = some sect)
      (absent : tree.isDirectory (root.normalize.configured sect.routesDirectory) = false) :
      Unusable tree root config .shell { config with shell := none }
  | budgetGlob (earlier : List BudgetRule) (rule : BudgetRule) (later : List BudgetRule)
      (listed : config.budgets = earlier ++ rule :: later)
      (refusal : PathGlobs.Refusal) (refused : PathGlobs.compile rule.files = .error refusal) :
      Unusable tree root config .budgets { config with budgets := earlier ++ later }
  | blueprintTable (sect : CrossRefSection) (configured : config.crossRef = some sect)
      (error : TableError) (refused : Table.read CrossReference.blueprintTable tree
        (root.normalize.configured sect.blueprints) = .error error) :
      Unusable tree root config .crossRef { config with crossRef := none }
  | sharedTable (sect : CrossRefSection) (configured : config.crossRef = some sect)
      (error : TableError) (refused : Table.read CrossReference.sharedDataTable tree
        (root.normalize.configured sect.sharedData) = .error error) :
      Unusable tree root config .crossRef { config with crossRef := none }

namespace Check

variable {check : Check}

theorem Blames.alone {found : List Violation} (some : found ≠ [])
    (all : ∀ error ∈ found, ∃ subject message, error = Violation.configuration check subject message) :
    check.Blames found [] := by
  obtain ⟨error, rest, rfl⟩ := List.exists_cons_of_ne_nil some
  obtain ⟨subject, message, rfl⟩ := all error List.mem_cons_self
  refine ⟨⟨subject, message, List.mem_cons_self⟩, _, ?_, all⟩
  rw [List.append_nil]

theorem Blames.single (subject message : String) :
    check.Blames [Violation.configuration check subject message] [] := by
  apply Blames.alone (List.cons_ne_nil _ _)
  intro error member
  exact ⟨subject, message, List.mem_singleton.mp member⟩

theorem Blames.same (subject message : String) : check.Blames
    [Violation.configuration check subject message] [Violation.configuration check subject message] := by
  refine ⟨⟨subject, message, List.mem_cons_self⟩, [], ?_, nofun⟩
  rw [List.nil_append]

theorem Blames.one {found spared : List Violation} (subject message : String)
    (more : found.Perm (Violation.configuration check subject message :: spared)) :
    check.Blames found spared := by
  refine ⟨⟨subject, message, more.mem_iff.mpr List.mem_cons_self⟩, [_], more, ?_⟩
  intro error member
  exact ⟨subject, message, List.mem_singleton.mp member⟩

theorem Blames.append {found spared : List Violation} (front back : List Violation)
    (blames : check.Blames found spared) :
    check.Blames (front ++ found ++ back) (front ++ spared ++ back) := by
  obtain ⟨⟨subject, message, told⟩, errors, rest, all⟩ := blames
  refine ⟨⟨subject, message, ?_⟩, errors, ?_, all⟩
  · exact List.mem_append_left _ (List.mem_append_right _ told)
  · have moved := ((rest.append_left front).append_right back).trans
      (((List.perm_append_comm_assoc front errors spared).append_right back))
    rwa [List.append_assoc errors] at moved

theorem Blames.congr {found spared : List Violation} (blames : check.Blames found spared)
    {found' spared' : List Violation} (left : found'.Perm found) (right : spared.Perm spared') :
    check.Blames found' spared' := by
  obtain ⟨⟨subject, message, told⟩, errors, rest, all⟩ := blames
  refine ⟨⟨subject, message, left.mem_iff.mpr told⟩, errors, ?_, all⟩
  exact left.trans (rest.trans (right.append_left errors))

end Check

namespace Checks

variable (context : CheckContext)

theorem compliance_blames [Engine] (sect : RegistrySection) (configured : context.config.registry = some sect)
    (loaded : Except RegistryError Registry) (known : context.registry = some loaded)
    (broken : (∃ error, loaded = .error error) ∨
      ∃ refusal, PathGlobs.compile sect.ignore = .error refusal) :
    Check.registry.Blames (compliance context) [] := by
  unfold compliance
  rw [configured, known]
  cases loaded with
  | error error => exact .single sect.table error.message
  | ok registry =>
      obtain ⟨error, same⟩ | ⟨refusal, refused⟩ := broken
      · contradiction
      · dsimp only
        rw [refused]
        exact .single "registry.ignore" refusal.message

section Patterns

variable (sect : PatternsSection) (removed : String) (rules : List PatternRule)

theorem scanRule_withRules [Engine] (other : PatternRule) (member : other ∈ rules) :
    scanRule (sect.withRules removed rules) other = scanRule sect other := by
  have kept : (other.id != removed || rules.any fun rule => rule.id == other.id) = true := by
    rw [Bool.or_eq_true]
    right
    exact List.any_eq_true.mpr ⟨other, member, beq_self_eq_true other.id⟩
  have found := sect.exceptions.find_restrict
    (fun id => id != removed || rules.any fun rule => rule.id == id) other.id kept
  unfold scanRule PatternsSection.withRules
  dsimp only
  rw [found]

theorem usableRules_withRules [Engine] : usableRules (sect.withRules removed rules) =
    rules.filterMap fun other => (scanRule sect other).toOption := by
  apply List.filterMap_congr
  intro other member
  rw [scanRule_withRules sect removed rules other member]

def broken? [Engine] (rule : PatternRule) : Option Violation :=
  match scanRule sect rule with
  | .ok _ => none
  | .error error => some (Violation.configuration .patterns rule.id error.message)

theorem brokenRules_withRules [Engine] : brokenRules (sect.withRules removed rules) =
    rules.filterMap (broken? sect) := by
  apply List.filterMap_congr
  intro other member
  rw [scanRule_withRules sect removed rules other member]
  rfl

def stray (id : String) : Bool := !sect.rules.any fun rule => rule.id == id

theorem keys_withRules : (sect.withRules removed rules).exceptions.keys =
    sect.exceptions.keys.filter fun id => id != removed || rules.any fun rule => rule.id == id := by
  unfold PatternsSection.withRules SortedMap.restrict SortedMap.keys
  rw [List.filter_map]
  rfl

/-- The exceptions that name no rule are the same ones where the rule that was removed had its own. -/
theorem unknownExceptions_withRules (earlier : List PatternRule) (rule : PatternRule)
    (later : List PatternRule) (listed : sect.rules = earlier ++ rule :: later) :
    unknownExceptions (sect.withRules rule.id (earlier ++ later)) = unknownExceptions sect := by
  unfold unknownExceptions
  rw [keys_withRules, List.filter_filter, listed]
  congr 1
  apply List.filter_congr
  intro id member
  by_cases own : rule.id = id
  · subst own
    simp [PatternsSection.withRules]
  · have others : id != rule.id := by simpa using Ne.symm own
    simp [PatternsSection.withRules, beq_eq_false_iff_ne.mpr own, others]

theorem patterns_of_scan [Engine] (configured : context.config.patterns = some sect)
    (refusal : PathGlobs.Refusal) (refused : PathGlobs.compile sect.scan = .error refusal) :
    patterns context = [Violation.configuration .patterns "patterns.scan" refusal.message] := by
  unfold patterns
  rw [configured]
  dsimp only
  rw [refused]

/-- A rule that cannot be used is one more finding, and the rest is as without the rule. -/
theorem patterns_blames_rule [Engine] (configured : context.config.patterns = some sect)
    (earlier : List PatternRule) (rule : PatternRule) (later : List PatternRule)
    (listed : sect.rules = earlier ++ rule :: later)
    (error : ScanRuleError) (broken : scanRule sect rule = .error error) :
    let spared := { context.config with
      patterns := some (sect.withRules rule.id (earlier ++ later)) }
    Check.patterns.Blames (patterns context) (patterns { context with config := spared }) := by
  intro spared
  rcases compiled : PathGlobs.compile sect.scan with refusal | scan
  · -- Nothing but the globs is spoken of, with the rules as they were and without.
    rw [patterns_of_scan context sect configured refusal compiled,
      patterns_of_scan { context with config := spared } _ rfl refusal compiled]
    exact .same _ _
  have said : broken? sect rule =
      some (Violation.configuration .patterns rule.id error.message) := by
    unfold broken?
    rw [broken]
  have usable : usableRules (sect.withRules rule.id (earlier ++ later)) = usableRules sect := by
    rw [usableRules_withRules, usableRules, listed, List.filterMap_append, List.filterMap_append,
      List.filterMap_cons_none (by rw [broken]; rfl)]
  have whole : brokenRules sect = earlier.filterMap (broken? sect) ++
      Violation.configuration .patterns rule.id error.message :: later.filterMap (broken? sect) := by
    show sect.rules.filterMap (broken? sect) = _
    rw [listed, List.filterMap_append, List.filterMap_cons_some said]
  have unscanned : PathGlobs.compile (sect.withRules rule.id (earlier ++ later)).scan = .ok scan :=
    compiled
  unfold patterns
  rw [configured]
  dsimp only [spared]
  rw [compiled, unscanned]
  dsimp only
  rw [unknownExceptions_withRules sect earlier rule later listed, usable, brokenRules_withRules,
    whole, List.filterMap_append]
  apply Check.Blames.append
  exact .one rule.id error.message List.perm_middle

/-- An exception that names no rule is one more finding, whatever its globs are. -/
theorem patterns_blames_stray [Engine] (configured : context.config.patterns = some sect)
    (id : String) (unnamed : ∀ rule ∈ sect.rules, rule.id ≠ id) (listed : id ∈ sect.exceptions.keys) :
    let spared := { context.config with patterns := some (sect.withRules id sect.rules) }
    Check.patterns.Blames (patterns context) (patterns { context with config := spared }) := by
  intro spared
  rcases compiled : PathGlobs.compile sect.scan with refusal | scan
  · rw [patterns_of_scan context sect configured refusal compiled,
      patterns_of_scan { context with config := spared } _ rfl refusal compiled]
    exact .same _ _
  have unscanned : PathGlobs.compile (sect.withRules id sect.rules).scan = .ok scan := compiled
  have usable : usableRules (sect.withRules id sect.rules) = usableRules sect :=
    usableRules_withRules sect id sect.rules
  have broken : brokenRules (sect.withRules id sect.rules) = brokenRules sect :=
    brokenRules_withRules sect id sect.rules
  have absent : stray sect id = true := by
    simpa [stray] using unnamed
  -- The keys are those that stay and the one that names no rule.
  have split : (sect.exceptions.keys.filter (stray sect)).Perm
      (id :: (sect.withRules id sect.rules).exceptions.keys.filter (stray sect)) := by
    have distinct : (sect.exceptions.keys.filter (stray sect)).Nodup :=
      sect.exceptions.keys_nodup.filter _
    have member : id ∈ sect.exceptions.keys.filter (stray sect) :=
      List.mem_filter.mpr ⟨listed, absent⟩
    have rest : (sect.withRules id sect.rules).exceptions.keys.filter (stray sect) =
        (sect.exceptions.keys.filter (stray sect)).erase id := by
      rw [distinct.erase_eq_filter, keys_withRules, List.filter_filter, List.filter_filter]
      apply List.filter_congr
      intro other member
      unfold stray
      cases sect.rules.any fun rule => rule.id == other <;> simp
    rw [rest]
    exact List.perm_cons_erase member
  unfold patterns
  rw [configured]
  dsimp only [spared]
  rw [compiled, unscanned]
  dsimp only
  rw [usable, broken, List.append_assoc, List.append_assoc]
  have front : Check.patterns.Blames (unknownExceptions sect)
      (unknownExceptions (sect.withRules id sect.rules)) := by
    apply Check.Blames.one
    exact split.map _
  exact front.append [] _

theorem scanRule_error [Engine] (rule : PatternRule)
    (broken : (∃ error, Regex.compile rule.pattern = .error error) ∨
      ∃ globs, sect.exceptions.find? rule.id = some globs ∧
        ∃ refusal, PathGlobs.compile globs = .error refusal) :
    ∃ error, scanRule sect rule = .error error := by
  unfold scanRule ScanRule.ofRule
  cases compiled : Regex.compile rule.pattern with
  | error error => exact ⟨_, rfl⟩
  | ok regex =>
      obtain ⟨error, refused⟩ | ⟨globs, found, refusal, refused⟩ := broken
      · rw [compiled] at refused
        contradiction
      · dsimp only
        rw [found, Option.getD_some, refused]
        split
        · exact ⟨_, rfl⟩
        · exact ⟨_, rfl⟩

end Patterns

theorem shell_blames [Engine] (sect : ShellSection) (configured : context.config.shell = some sect)
    (broken : (∃ refusal, PathGlobs.compile sect.exempt = .error refusal) ∨
      (∃ error, wrapperRegex sect.wrappers = .error error) ∨
      context.tree.isDirectory (context.root.configured sect.routesDirectory) = false) :
    Check.shell.Blames (shell context) [] := by
  unfold shell
  rw [configured]
  dsimp only
  cases compiled : PathGlobs.compile sect.exempt with
  | error refusal => exact .single "shell.exempt" refusal.message
  | ok exempt =>
      cases expected : wrapperRegex sect.wrappers with
      | error error => exact .single "shell.wrappers" _
      | ok wrapper =>
          dsimp only
          obtain ⟨refusal, refused⟩ | ⟨error, refused⟩ | absent := broken
          · rw [compiled] at refused
            contradiction
          · rw [expected] at refused
            contradiction
          · rw [if_pos (by simp [absent])]
            exact .single sect.routesDirectory _

theorem budgets_blames [Engine] (earlier : List BudgetRule) (rule : BudgetRule) (later : List BudgetRule)
    (listed : context.config.budgets = earlier ++ rule :: later)
    (refusal : PathGlobs.Refusal) (refused : PathGlobs.compile rule.files = .error refusal) :
    let spared := { context.config with budgets := earlier ++ later }
    Check.budgets.Blames (budgets context) (budgets { context with config := spared }) := by
  intro spared
  have unmeasured : evaluateBudget context.tree context.root rule = .error (.glob refusal) := by
    unfold evaluateBudget
    rw [refused]
    rfl
  unfold budgets
  rw [listed]
  dsimp only [spared]
  rw [List.flatMap_append, List.flatMap_append, List.flatMap_cons, unmeasured]
  exact .one rule.id _ List.perm_middle

end Checks

theorem CrossReference.check_blames (tree : FileTree) (root : Path) (sect : CrossRefSection)
    (broken : (∃ error, Table.read blueprintTable tree (root.configured sect.blueprints) =
        .error error) ∨
      ∃ error, Table.read sharedDataTable tree (root.configured sect.sharedData) = .error error) :
    Check.crossRef.Blames (check tree root sect.blueprints sect.sharedData) [] := by
  have said : ∀ {Value : Type} (subject : String) (table : Except TableError Value),
      ∀ violation ∈ tableViolation subject table, ∃ subject message,
        violation = Violation.configuration .crossRef subject message := by
    intro Value subject table violation member
    cases table with
    | ok value => contradiction
    | error error => exact ⟨subject, error.message, List.mem_singleton.mp member⟩
  have both : ∀ {First Second : Type} (first : Except TableError First)
      (second : Except TableError Second),
      (∃ error, first = .error error) ∨ (∃ error, second = .error error) →
      Check.crossRef.Blames
        (tableViolation sect.blueprints first ++ tableViolation sect.sharedData second) [] := by
    intro First Second first second some
    apply Check.Blames.alone
    · obtain ⟨error, rfl⟩ | ⟨error, rfl⟩ := some
      · exact List.cons_ne_nil _ _
      · exact List.append_ne_nil_of_right_ne_nil _ (List.cons_ne_nil _ _)
    · intro violation member
      rcases List.mem_append.mp member with left | right
      · exact said _ first violation left
      · exact said _ second violation right
  unfold check
  dsimp only
  generalize Table.read blueprintTable tree (root.configured sect.blueprints) = first at broken ⊢
  generalize Table.read sharedDataTable tree (root.configured sect.sharedData) = second at broken ⊢
  cases first with
  | error error => exact both (.error error) second broken
  | ok blueprints =>
      cases second with
      | error error => exact both (.ok blueprints) (.error error) broken
      | ok shared =>
          obtain ⟨error, same⟩ | ⟨error, same⟩ := broken
          · contradiction
          · contradiction

structure GateConfig.SameSources (config spared : GateConfig) : Prop where
  aliases : spared.aliases = config.aliases
  extensions : spared.extensions = config.extensions
  sourceRoot : spared.sourceRoot = config.sourceRoot
  entries : spared.entries = config.entries

namespace Gate

theorem found_eq [Engine] (gate : Gate) (strict : Bool) (check : Check) :
    gate.found strict check = check.findings (gate.context strict) := by
  unfold found outcome
  split
  · rename_i reason skipped
    refine (Check.findings_of_skipped (gate.context strict) check ?_).symm
    rw [show (gate.context strict).config = gate.config from rfl, skipped]
    rfl
  · rfl

def ofFiles (tree : FileTree) (reachable : ReachableSet) (config : GateConfig) : Gate :=
  { tree, config, reachable,
    registry := config.registry.map fun tables =>
      Registry.load tree (reachable.root.join tables.table) }

/-- Which files are reached is up to the root, the entries and how specifiers are resolved. -/
theorem prepare_sources (tree : FileTree) (root : Path) {config spared : GateConfig}
    (same : config.SameSources spared) : prepare tree root spared =
      (prepare tree root config).map fun gate => ofFiles tree gate.reachable spared := by
  unfold prepare
  rw [same.aliases, same.extensions, same.sourceRoot, same.entries]
  dsimp only
  split
  · rfl
  · rename_i resolver made
    cases ReachableSet.build resolver tree config.sourceRoot config.entries <;> rfl

theorem prepare_ofFiles (tree : FileTree) (root : Path) (config : GateConfig) (gate : Gate)
    (prepared : prepare tree root config = .ok gate) :
    gate.reachable.root = root.normalize ∧ gate = ofFiles tree gate.reachable config := by
  obtain ⟨resolver, made, reachable, built, rfl⟩ := prepare_ok tree root config gate prepared
  refine ⟨?_, rfl⟩
  obtain ⟨-, turns, -, rfl⟩ := ReachableSet.build_walked resolver tree _ _ reachable built
  unfold Resolver.make at made
  dsimp only at made
  split at made
  · contradiction
  · split at made
    · contradiction
    · rw [← Except.ok.inj made]

theorem run_blames [Engine] {gate other : Gate} {strict : Bool} {check : Check}
    (same : ∀ another, another ≠ check → gate.found strict another = other.found strict another)
    (blames : check.Blames (gate.found strict check) (other.found strict check))
    (order : List Check) (distinct : order.Nodup) (asked : check ∈ order) :
    check.Blames (gate.runInOrder strict order).violations
      (other.runInOrder strict order).violations := by
  rw [violations_runInOrder, violations_runInOrder]
  refine Check.Blames.congr ?_ (Violation.sort_perm _) (Violation.sort_perm _).symm
  obtain ⟨front, back, rfl⟩ := List.append_of_mem asked
  obtain ⟨-, tail, apart⟩ := List.nodup_append.mp distinct
  have before : front.flatMap (gate.found strict) = front.flatMap (other.found strict) := by
    apply List.flatMap_congr
    intro another member
    exact same another (apart another member check List.mem_cons_self)
  have behind : back.flatMap (gate.found strict) = back.flatMap (other.found strict) := by
    apply List.flatMap_congr
    intro another member
    apply same another
    rintro rfl
    exact (List.nodup_cons.mp tail).1 member
  rw [List.flatMap_append, List.flatMap_append, List.flatMap_cons, List.flatMap_cons, before, behind,
    ← List.append_assoc, ← List.append_assoc]
  exact blames.append _ _

end Gate

namespace Unusable

variable {tree : FileTree} {root : Path} {config spared : GateConfig} {check : Check}

theorem sources [Engine] (unusable : Unusable tree root config check spared) :
    config.SameSources spared := by
  cases unusable <;> exact ⟨rfl, rfl, rfl, rfl⟩

theorem frame [Engine] (unusable : Unusable tree root config check spared) (reachable : ReachableSet)
    (strict : Bool) (another : Check) (different : another ≠ check) :
    (Gate.ofFiles tree reachable config).outcome strict another =
      (Gate.ofFiles tree reachable spared).outcome strict another := by
  cases unusable <;> cases another <;> first
    | exact absurd rfl different
    | rfl

theorem findings [Engine] (unusable : Unusable tree root config check spared) (reachable : ReachableSet)
    (below : reachable.root = root.normalize) (strict : Bool) :
    check.Blames (check.findings ((Gate.ofFiles tree reachable config).context strict))
      (check.findings ((Gate.ofFiles tree reachable spared).context strict)) := by
  cases unusable with
  | registryTable sect configured faulty =>
      obtain ⟨error, refused⟩ := Registry.load_faulty tree _ faulty
      apply Checks.compliance_blames _ sect configured (.error error)
      · show config.registry.map _ = _
        rw [configured, Option.map_some, below, refused]
      · exact .inl ⟨error, rfl⟩
  | registryGlob sect configured refusal refused =>
      apply Checks.compliance_blames _ sect configured
        (Registry.load tree (reachable.root.join sect.table))
      · show config.registry.map _ = _
        rw [configured, Option.map_some]
      · exact .inr ⟨refusal, refused⟩
  | scanGlob sect configured refusal refused =>
      show Check.patterns.Blames (Checks.patterns _) []
      rw [Checks.patterns_of_scan _ sect configured refusal refused]
      exact .single _ _
  | pattern sect configured earlier rule later listed error refused =>
      obtain ⟨reason, broken⟩ := Checks.scanRule_error sect rule (.inl ⟨error, refused⟩)
      exact Checks.patterns_blames_rule _ sect configured earlier rule later listed reason broken
  | exceptionGlob sect configured earlier rule later listed globs found refusal refused =>
      obtain ⟨reason, broken⟩ := Checks.scanRule_error sect rule
        (.inr ⟨globs, found, refusal, refused⟩)
      exact Checks.patterns_blames_rule _ sect configured earlier rule later listed reason broken
  | strayException sect configured id unnamed globs found refusal refused =>
      refine Checks.patterns_blames_stray _ sect configured id unnamed ?_
      rw [SortedMap.mem_keys, SortedMap.contains, found]
      rfl
  | exemptGlob sect configured refusal refused =>
      exact Checks.shell_blames _ sect configured (.inl ⟨refusal, refused⟩)
  | wrapperPattern sect configured error refused =>
      exact Checks.shell_blames _ sect configured (.inr (.inl ⟨error, refused⟩))
  | routesDirectory sect configured absent =>
      refine Checks.shell_blames _ sect configured (.inr (.inr ?_))
      show tree.isDirectory (reachable.root.configured sect.routesDirectory) = false
      rw [below]
      exact absent
  | budgetGlob earlier rule later listed refusal refused =>
      exact Checks.budgets_blames _ earlier rule later listed refusal refused
  | blueprintTable sect configured error refused =>
      rw [← below] at refused
      show Check.crossRef.Blames (Check.crossRef.findings _) []
      unfold Check.findings
      simp only [Gate.context, Gate.ofFiles, configured]
      exact CrossReference.check_blames tree reachable.root sect (.inl ⟨error, refused⟩)
  | sharedTable sect configured error refused =>
      rw [← below] at refused
      show Check.crossRef.Blames (Check.crossRef.findings _) []
      unfold Check.findings
      simp only [Gate.context, Gate.ofFiles, configured]
      exact CrossReference.check_blames tree reachable.root sect (.inr ⟨error, refused⟩)

end Unusable

namespace Gate

/-- What cannot be used shows in the report as errors of the check that needs it, and nowhere else. -/
theorem run_unusable [Engine] {tree : FileTree} {root : Path} {config spared : GateConfig} {check : Check}
    (unusable : Unusable tree root config check spared) (gate other : Gate)
    (prepared : prepare tree root config = .ok gate) (eased : prepare tree root spared = .ok other)
    (options : RunOptions) :
    (options.selects check = true →
      check.Blames (gate.run options).violations (other.run options).violations) ∧
    (options.selects check = false →
      (gate.run options).violations = (other.run options).violations) ∧
    (gate.run options).violations.filter (fun violation => violation.rule ≠ check) =
      (other.run options).violations.filter (fun violation => violation.rule ≠ check) ∧
    (gate.run options).reachability = (other.run options).reachability := by
  obtain ⟨below, whole⟩ := prepare_ofFiles tree root config gate prepared
  rw [prepare_sources tree root unusable.sources, prepared] at eased
  have rest : other = ofFiles tree gate.reachable spared := (Except.ok.inj eased).symm
  generalize gate.reachable = reachable at below whole rest
  subst whole rest
  rw [run_eq_runInOrder, run_eq_runInOrder]
  have same : ∀ another, another ≠ check → (ofFiles tree reachable config).found options.strict another =
      (ofFiles tree reachable spared).found options.strict another := by
    intro another different
    exact congrArg Prod.snd (unusable.frame reachable options.strict another different)
  have distinct : (Check.all.filter options.selects).Nodup := Check.all_nodup.filter _
  refine ⟨?_, ?_, ?_, rfl⟩
  · intro asked
    apply run_blames same _ _ distinct
    · exact List.mem_filter.mpr ⟨by cases check <;> decide, asked⟩
    · rw [found_eq, found_eq]
      exact unusable.findings reachable below options.strict
  · intro unasked
    rw [violations_runInOrder, violations_runInOrder]
    congr 1
    apply List.flatMap_congr
    intro another member
    apply same another
    rintro rfl
    rw [(List.mem_filter.mp member).2] at unasked
    contradiction
  · rw [violations_runInOrder, violations_runInOrder, Violation.filter_sort, Violation.filter_sort]
    congr 1
    rw [List.filter_flatMap, List.filter_flatMap]
    apply List.flatMap_congr
    intro another member
    by_cases own : another = check
    · subst own
      -- What the check itself has found is left out on both sides.
      have none : ∀ gate : Gate, (gate.found options.strict another).filter
          (fun violation => violation.rule ≠ another) = [] := by
        intro gate
        apply List.filter_eq_nil_iff.mpr
        intro violation inside
        simp [gate.found_rule options.strict another violation inside]
      rw [none, none]
    · rw [same another own]

/-- A configuration that was accepted has a resolver, and a gate can be prepared for it just where every
entry leads to a file; the first that does not is the reason. Whatever else cannot be used, of all that
the checks need, makes nothing fail. The run tells it as errors of the check that needs it, and finds for
the rest what it finds where nothing asks for it. -/
theorem prepare_accepted [Engine] (text : String) (config : GateConfig)
    (accepted : GateConfig.ofToml text = .ok config) (tree : FileTree) (root : Path) :
    (∃ resolver, Resolver.make (config.resolverSettings root) = .ok resolver) ∧
    ((∃ error, prepare tree root config = .error error) ↔
      ∃ entry ∈ config.entries, tree.isFile (root.join entry).normalize = false) ∧
    (∀ error, prepare tree root config = .error error → ∃ entry,
      config.entries.find? (fun entry => !tree.isFile (root.join entry).normalize) = some entry ∧
        error = .reachability (.missingEntry (root.join entry).normalize)) ∧
    ∀ check spared, Unusable tree root config check spared →
      (∀ error, prepare tree root config = .error error ↔ prepare tree root spared = .error error) ∧
      ∀ gate other, prepare tree root config = .ok gate → prepare tree root spared = .ok other →
        ∀ options : RunOptions,
          (options.selects check = true →
            check.Blames (gate.run options).violations (other.run options).violations) ∧
          (options.selects check = false →
            (gate.run options).violations = (other.run options).violations) ∧
          (gate.run options).violations.filter (fun violation => violation.rule ≠ check) =
            (other.run options).violations.filter (fun violation => violation.rule ≠ check) ∧
          (gate.run options).reachability = (other.run options).reachability := by
  have sensible := GateConfig.sensible_of_ofToml text config accepted
  refine ⟨?_, ?_, ?_, ?_⟩
  · obtain ⟨resolver, made, -⟩ := sensible.resolver root
    exact ⟨resolver, made⟩
  · simp only [prepare_error tree root sensible]
    constructor
    · rintro ⟨error, entry, found, -⟩
      exact ⟨entry, List.mem_of_find?_eq_some found, by simpa using List.find?_some found⟩
    · rintro ⟨entry, member, missing⟩
      have some : missingEntry? tree root config.entries ≠ none := by
        rw [Ne, missingEntry_eq_none]
        intro files
        rw [files entry member] at missing
        contradiction
      obtain ⟨first, found⟩ := Option.ne_none_iff_exists'.mp some
      exact ⟨_, first, found, rfl⟩
  · intro error failed
    exact (prepare_error tree root sensible error).mp failed
  · intro check spared unusable
    refine ⟨?_, run_unusable unusable⟩
    intro error
    rw [prepare_sources tree root unusable.sources]
    cases prepare tree root config with
    | error reason => exact Iff.rfl
    | ok gate => exact ⟨nofun, nofun⟩

def registryText : String :=
  "source_root = \"src\"\nentries = [\"a.ts\"]\n" ++
    "[registry]\ntable = \"t.json\"\ncomponent_root = \"ui\"\n"

def registryConfig : GateConfig :=
  { schemaVersion := 1, sourceRoot := "src", entries := ["a.ts"],
    extensions := [".ts", ".tsx", ".js", ".jsx"],
    registry := some { table := "t.json", componentRoot := "ui" } }

def bareTree : FileTree := FileTree.add {} [['a', '.', 't', 's']] (.file [])

section Examples

attribute [local instance] Engine.rough

theorem prepare_accepted_tableless : GateConfig.ofToml registryText = .ok registryConfig ∧
    ∃ gate, prepare bareTree ⟨"/"⟩ registryConfig = .ok gate ∧
      ∃ subject message, Violation.configuration .registry subject message ∈
        (gate.run {}).violations := by
  have read : (GateConfig.ofToml registryText).toOption = some registryConfig := by decide +kernel
  have accepted : GateConfig.ofToml registryText = .ok registryConfig := by
    cases text : GateConfig.ofToml registryText with
    | error error =>
        rw [text] at read
        exact nomatch (show none = some registryConfig from read)
    | ok config =>
        rw [text] at read
        rw [Option.some.inj read]
  have absent : (bareTree.readText ((Path.mk "/").normalize.join "t.json")).isOk = false := by
    decide +kernel
  have unusable : Unusable bareTree ⟨"/"⟩ registryConfig .registry
      { registryConfig with registry := none } := by
    refine .registryTable { table := "t.json", componentRoot := "ui" } rfl ?_
    cases found : bareTree.readText ((Path.mk "/").normalize.join "t.json") with
    | error reason => exact .missing reason found
    | ok text =>
        rw [found] at absent
        exact nomatch (show true = false from absent)
  obtain ⟨-, fails, -, blamed⟩ :=
    prepare_accepted registryText registryConfig accepted bareTree ⟨"/"⟩
  obtain ⟨alike, told⟩ := blamed _ _ unusable
  cases prepared : prepare bareTree ⟨"/"⟩ registryConfig with
  | error error =>
      obtain ⟨entry, member, missing⟩ := fails.mp ⟨error, prepared⟩
      rw [List.mem_singleton.mp member] at missing
      exact absurd missing (by decide +kernel)
  | ok gate =>
      refine ⟨accepted, gate, rfl, ?_⟩
      cases eased : prepare bareTree ⟨"/"⟩ { registryConfig with registry := none } with
      | error error =>
          have failed := (alike error).mpr eased
          rw [prepared] at failed
          exact nomatch failed
      | ok other => exact ((told gate other prepared eased {}).1 rfl).told

end Examples

end Gate

end UiContract
