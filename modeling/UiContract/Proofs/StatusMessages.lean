import UiContract.Proofs.QuestionTopics
import UiContract.Proofs.RegistryEntries
import UiContract.Proofs.Trimming

/-!
What a report says about components that the registry lists, in the words of `status_message`. It names the
state of the component and what stands in for it, and calls the component as the table does: by the name that
was imported exactly where the table writes the name without blanks around it.
-/
namespace UiContract

theorem Text.trim_eq_iff (text : String) :
    Text.trim text = text ↔ Text.Bare Text.isBlank text.toList := by
  unfold Text.trim
  rw [← String.toList_inj, String.toList_ofList]
  constructor
  · intro same
    rw [← same]
    exact Text.dropEnds_bare _ _
  · exact Text.dropEnds_of_bare _ _

theorem Registry.load_ok {tree : FileTree} {path : Path} {registry : Registry}
    (loaded : load tree path = .ok registry) :
    ∃ table, Table.read (Json.table RegistryTable.record) tree path = .ok table ∧
      Listable table.components ∧ Holds registry table.components := by
  unfold load at loaded
  split at loaded
  · contradiction
  · rename_i table read
    split at loaded
    · contradiction
    · exact ⟨table, read, ofEntries_ok loaded⟩

namespace Checks

/-- A message that says in what state a component is listed, and what stands in for it if the entry has a
replacement. -/
structure Tells (entry : RegistryEntry) (name message : String) : Prop where
  replaced : ∀ replacement, entry.replacement = some replacement →
    Text.isBlankText replacement = false →
    message = "imports " ++ name ++ " (" ++ entry.status.name ++ "). Replace with " ++ replacement ++ "."
  plain : (∀ replacement, entry.replacement = some replacement →
      Text.isBlankText replacement = true) →
    message = "imports " ++ name ++ " (" ++ entry.status.name ++ ")."

theorem tells_iff (entry : RegistryEntry) (name message : String) :
    Tells entry name message ↔ message = statusMessage { entry with name } := by
  have joined : ∀ front : String, front ++ ")." ++ " Replace with " = front ++ "). Replace with " := by
    intro front
    rw [String.append_assoc]
    rfl
  unfold statusMessage
  cases given : entry.replacement with
  | none =>
      exact ⟨fun told => told.plain (by simp [given]), fun same => ⟨by simp [given], fun _ => same⟩⟩
  | some replacement =>
      dsimp only
      cases blank : Text.isBlankText replacement with
      | true =>
          exact ⟨fun told => told.plain (by simp [given, blank]),
            fun same => ⟨by simp [given, blank], fun _ => same⟩⟩
      | false =>
          rw [if_neg Bool.false_ne_true, joined]
          refine ⟨fun told => told.replaced replacement given blank, fun same => ⟨?_, ?_⟩⟩
          · rintro other given' -
            obtain rfl := Option.some.inj (given.symm.trans given')
            exact same
          · intro plain
            rw [plain replacement given] at blank
            contradiction

theorem statusMessage_parts (entry : RegistryEntry) : ∃ back, ∀ name,
    statusMessage { entry with name } = "imports " ++ (name ++ back) := by
  unfold statusMessage
  dsimp only
  split
  · split
    · exact ⟨" (" ++ entry.status.name ++ ").", fun name => by simp only [String.append_assoc]⟩
    · rename_i replacement _ _
      exact ⟨" (" ++ entry.status.name ++ ")." ++ " Replace with " ++ replacement ++ ".",
        fun name => by simp only [String.append_assoc]⟩
  · exact ⟨" (" ++ entry.status.name ++ ").", fun name => by simp only [String.append_assoc]⟩

theorem statusMessage_tells (entry : RegistryEntry) (name : String) :
    Tells entry name (statusMessage entry) ↔ entry.name = name := by
  obtain ⟨back, parts⟩ := statusMessage_parts entry
  rw [tells_iff, show statusMessage entry = _ from parts entry.name, parts, ← String.toList_inj]
  simp only [String.toList_append, List.append_cancel_left_eq, List.append_cancel_right_eq,
    String.toList_inj]

/-- About a component that is listed and not canonical there is a finding, which says how the table lists
it. -/
theorem judge_tells {registry : Registry} {name : String} {entry : RegistryEntry}
    (known : registry.find? name = some entry) (objects : entry.status ≠ .canonical) (strict : Bool)
    (subject : String) (edge : ImportEdge) :
    ∃ violation, judge registry strict subject edge (.component name) = some violation ∧
      violation.message = statusMessage entry := by
  obtain ⟨violation, judged⟩ := Option.ne_none_iff_exists'.mp
    ((judge_eq_none registry strict subject edge name).not.mpr (not_not.mpr fun other same => by
      obtain rfl := Option.some.inj (known.symm.trans same)
      exact objects))
  refine ⟨violation, judged, ?_⟩
  rw [judge_listed registry strict subject edge name entry known] at judged
  obtain ⟨level, -, rfl⟩ := Option.map_eq_some_iff.mp judged
  obtain ⟨hint, written, -⟩ := listed_eq entry subject edge level
  rw [written]

end Checks

namespace Gate

open Checks

/-- Whatever a report says about components answers a question of a file, where the registry and the
globs of its section can be used. -/
theorem judge_of_report [Engine] (gate : Gate) (options : RunOptions)
    (selected : options.selects .registry = true) (part : RegistrySection)
    (configured : gate.config.registry = some part) (registry : Registry)
    (loaded : gate.registry = some (.ok registry)) (ignore : PathGlobs)
    (compiled : PathGlobs.compile part.ignore = .ok ignore) (violation : Violation)
    (reported : violation ∈ (gate.run options).violations) (rule : violation.rule = .registry) :
    let context := gate.context options.strict
    let scope : Scope :=
      { componentRoot := context.root.configured part.componentRoot, ignore }
    ∃ file ∈ context.files, ∃ question ∈ questions scope context.root file,
      judge registry options.strict file.relativePath question.1 question.2 = some violation := by
  intro context scope
  have found : violation ∈ Check.registry.findings context :=
    (report_findings gate options .registry selected).mem_iff.mp
      (List.mem_filter.mpr ⟨reported, decide_eq_true rule⟩)
  rw [compliance_files context part configured registry loaded ignore compiled] at found
  obtain ⟨file, member, inFile⟩ := List.mem_flatMap.mp found
  obtain ⟨question, first, judged⟩ := List.mem_filterMap.mp inFile
  exact ⟨file, member, question, mem_of_firstQuestions _ _ question first, judged⟩

/-- What is said about components that the registry of a prepared gate lists. The table has the entry
that is found under a name, and its name is that one without the blanks around it. If the entry is not
canonical, every question about the component has a finding; it says the state and the replacement of the
entry under the name that the table writes, which is the name that was asked for exactly where no blanks
stand around it. Whatever a report says about components is such a finding or one about something that is
not listed. -/
theorem report_status [Engine] (tree : FileTree) (root : Path) (config : GateConfig) (gate : Gate)
    (prepared : prepare tree root config = .ok gate) (part : RegistrySection)
    (configured : gate.config.registry = some part) (registry : Registry)
    (loaded : gate.registry = some (.ok registry)) :
    ∃ table, Table.read (Json.table RegistryTable.record) tree
        (gate.reachable.root.join part.table) = .ok table ∧
      (∀ name entry, registry.find? name = some entry → entry.status ≠ .canonical →
        entry ∈ table.components ∧ Text.trim entry.name = name ∧
        ∀ strict subject edge, ∃ violation,
          judge registry strict subject edge (.component name) = some violation ∧
          Tells entry entry.name violation.message ∧
          (Tells entry name violation.message ↔ Text.Bare Text.isBlank entry.name.toList)) ∧
      ∀ options : RunOptions, options.selects .registry = true → ∀ ignore,
        PathGlobs.compile part.ignore = .ok ignore →
        ∀ violation ∈ (gate.run options).violations, violation.rule = .registry →
          let context := gate.context options.strict
          let scope : Scope :=
            { componentRoot := context.root.configured part.componentRoot, ignore }
          ∃ file ∈ context.files, ∃ question ∈ questions scope context.root file,
            judge registry options.strict file.relativePath question.1 question.2 =
              some violation := by
  have read : Registry.load tree (gate.reachable.root.join part.table) = .ok registry := by
    obtain ⟨_, _, reachable, _, rfl⟩ := prepare_ok tree root config gate prepared
    dsimp only at configured loaded
    rw [configured] at loaded
    exact Option.some.inj loaded
  obtain ⟨table, read, -, holds⟩ := Registry.load_ok read
  refine ⟨table, read, fun name entry known objects => ?_, ?_⟩
  · obtain ⟨listed, named⟩ := (holds.find name entry).mp known
    refine ⟨listed, named, fun strict subject edge => ?_⟩
    obtain ⟨violation, judged, message⟩ := judge_tells known objects strict subject edge
    refine ⟨violation, judged, ?_, ?_⟩
    · rw [message]
      exact (statusMessage_tells entry entry.name).mpr rfl
    · rw [message, statusMessage_tells, ← Text.trim_eq_iff, eq_comm]
      exact iff_of_eq (congrArg (· = entry.name) named.symm)
  · intro options selected ignore compiled violation reported rule
    exact judge_of_report gate options selected part configured registry loaded ignore compiled
      violation reported rule

/-- A file that imports a component, and a table that writes its name with blanks around it. -/
def spacedTree : FileTree :=
  ((FileTree.add {} [['a', '.', 't', 's']]
      (.file (Text.encode "import \x7b Old \x7d from './ui/Old'".toList))).add
    [['u', 'i'], ['O', 'l', 'd', '.', 't', 's']] (.file [])).add
    [['t', '.', 'j', 's', 'o', 'n']]
      (.file (Text.encode ("\x7b\"components\":[\x7b\"name\":\" Old \",\"status\":\"legacy\"," ++
        "\"replacement\":\"New\"\x7d]\x7d").toList))

def spacedEntry : RegistryEntry := { name := " Old ", status := .legacy, replacement := some "New" }

def spacedFinding : Violation :=
  { rule := .registry, subject := "a.ts", level := .error,
    message := "imports  Old  (legacy). Replace with New.", line := some 1 }

section Examples

attribute [local instance] Engine.rough

theorem prepare_spaced : ∃ gate registry,
    prepare spacedTree ⟨"/"⟩ componentConfig = .ok gate ∧ gate.registry = some (.ok registry) ∧
    gate.config.registry = some componentSection ∧ registry.find? "Old" = some spacedEntry ∧
    (gate.run {}).violations = [spacedFinding] ∧
    ∃ file ∈ (gate.context false).files, ∃ edge,
      questions gate.bareScope gate.reachable.root file = [(edge, .component "Old")] := by
  have computed : (prepare spacedTree ⟨"/"⟩ componentConfig).toOption.any (fun gate =>
      (gate.registry.bind Except.toOption).any fun registry =>
        decide (registry.find? "Old" = some spacedEntry) &&
        decide ((gate.run {}).violations = [spacedFinding]) &&
        (gate.context false).files.any fun file =>
          decide ((questions gate.bareScope gate.reachable.root file).map Prod.snd =
            [.component "Old"])) = true := by
    decide +kernel
  obtain ⟨gate, registry, prepared, loaded, computed⟩ := exists_prepared computed
  obtain ⟨computed, asked⟩ := Bool.and_eq_true_iff.mp computed
  obtain ⟨known, reported⟩ := Bool.and_eq_true_iff.mp computed
  obtain ⟨file, member, lookups⟩ := List.any_eq_true.mp asked
  obtain ⟨⟨edge, lookup⟩, others, only, same, none⟩ :=
    List.map_eq_cons_iff.mp (of_decide_eq_true lookups)
  obtain rfl := List.map_eq_nil_iff.mp none
  obtain rfl : lookup = .component "Old" := same
  exact ⟨gate, registry, prepared, loaded, prepare_config prepared ▸ rfl, of_decide_eq_true known,
    of_decide_eq_true reported, file, member, edge, only⟩

theorem report_status_spaced : ∃ gate registry,
    prepare spacedTree ⟨"/"⟩ componentConfig = .ok gate ∧
    gate.config.registry = some componentSection ∧ gate.registry = some (.ok registry) ∧
    registry.find? "Old" = some spacedEntry ∧ spacedEntry.status ≠ .canonical ∧
    RunOptions.selects {} .registry = true ∧
    PathGlobs.compile componentSection.ignore = .ok ⟨[]⟩ ∧
    (gate.run {}).violations = [spacedFinding] ∧
    (∃ file ∈ (gate.context false).files,
      ∃ question ∈ questions gate.bareScope gate.reachable.root file,
        judge registry false file.relativePath question.1 question.2 = some spacedFinding) ∧
    ∀ edge, ∃ told, judge registry false "a.ts" edge (.component "Old") = some told ∧
      Tells spacedEntry " Old " told.message := by
  obtain ⟨gate, registry, prepared, loaded, configured, known, reported, -⟩ := prepare_spaced
  have compiled : PathGlobs.compile componentSection.ignore = .ok ⟨[]⟩ := rfl
  have objects : spacedEntry.status ≠ .canonical := by decide
  obtain ⟨table, -, listed, answers⟩ :=
    report_status _ _ _ gate prepared componentSection configured registry loaded
  obtain ⟨-, -, told⟩ := listed "Old" spacedEntry known objects
  have member : spacedFinding ∈ (gate.run {}).violations := by simp [reported]
  refine ⟨gate, registry, prepared, configured, loaded, known, objects, rfl, compiled, reported,
    answers {} rfl _ compiled spacedFinding member rfl, fun edge => ?_⟩
  obtain ⟨found, judged, tells, -⟩ := told false "a.ts" edge
  exact ⟨found, judged, tells⟩

/-- A component is imported and looked up under one name, and the report calls it by another one. -/
theorem spaced_name_reported : ∃ gate registry,
    prepare spacedTree ⟨"/"⟩ componentConfig = .ok gate ∧ gate.registry = some (.ok registry) ∧
    (∃ file ∈ (gate.context false).files, ∃ edge,
      questions gate.bareScope gate.reachable.root file = [(edge, .component "Old")]) ∧
    registry.find? "Old" = some spacedEntry ∧ spacedEntry.status ≠ .canonical ∧
    (gate.run {}).violations = [spacedFinding] ∧ ¬ Tells spacedEntry "Old" spacedFinding.message := by
  obtain ⟨gate, registry, prepared, loaded, -, known, reported, asked⟩ := prepare_spaced
  refine ⟨gate, registry, prepared, loaded, asked, known, by decide, reported, fun tells => ?_⟩
  exact absurd (tells.replaced "New" rfl (by decide)) (by decide)

end Examples

end Gate

end UiContract
