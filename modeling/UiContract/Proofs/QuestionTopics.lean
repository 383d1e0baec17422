import UiContract.Proofs.Compliance
import UiContract.Proofs.FollowedImports
import UiContract.Proofs.UnusableInputs

/-!
What becomes of the different questions of a file. Questions are told apart by a text, and this text tells
all of them apart but one kind: a component may bear the name under which an import of an index module is
remembered. Of two such questions the file answers the one that it asks first, and the other never.
-/
namespace UiContract

namespace Checks

section Topics

inductive Topic where
  | component (name : String)
  | wholeBarrel (how specifier : String)
deriving DecidableEq

def topicOf : ImportEdge × Lookup → Topic
  | (_, .component name) => .component name
  | (edge, .wholeBarrel how) => .wholeBarrel how edge.specifier

def Topic.key : Topic → String
  | component name => name
  | wholeBarrel how specifier => how ++ " " ++ specifier

theorem question_eq_key (edge : ImportEdge) (lookup : Lookup) :
    lookup.question edge = (topicOf (edge, lookup)).key := by
  cases lookup <;> rfl

inductive Topic.Shares : Topic → Topic → Prop where
  | component (how specifier : String) :
      Shares (.component (how ++ " " ++ specifier)) (.wholeBarrel how specifier)
  | wholeBarrel (how specifier : String) :
      Shares (.wholeBarrel how specifier) (.component (how ++ " " ++ specifier))

theorem Topic.Shares.key_eq {first second : Topic} (shares : first.Shares second) :
    first.key = second.key := by
  cases shares <;> rfl

theorem Topic.Shares.ne {first second : Topic} (shares : first.Shares second) : first ≠ second := by
  cases shares <;> nofun

theorem how_of_append {how other specifier rest : String} (way : how ∈ barrelWays)
    (way' : other ∈ barrelWays) (same : how ++ " " ++ specifier = other ++ " " ++ rest) :
    how = other ∧ specifier = rest := by
  rw [← String.toList_inj] at same
  simp only [String.toList_append] at same
  simp only [barrelWays, List.mem_cons, List.not_mem_nil, or_false] at way way'
  rcases way with rfl | rfl | rfl <;> rcases way' with rfl | rfl | rfl <;>
    simp_all [String.toList_inj]

def Topic.Known : Topic → Prop
  | component _ => True
  | wholeBarrel how _ => how ∈ barrelWays

theorem Topic.key_eq_iff {first second : Topic} (known : first.Known) (known' : second.Known) :
    first.key = second.key ↔ first = second ∨ first.Shares second := by
  constructor
  · intro same
    cases first with
    | component name =>
        cases second with
        | component other => exact .inl (congrArg Topic.component same)
        | wholeBarrel how specifier =>
            obtain rfl : name = how ++ " " ++ specifier := same
            exact .inr (.component how specifier)
    | wholeBarrel how specifier =>
        cases second with
        | component other =>
            obtain rfl : how ++ " " ++ specifier = other := same
            exact .inr (.wholeBarrel how specifier)
        | wholeBarrel other rest =>
            obtain ⟨rfl, rfl⟩ := how_of_append known known' same
            exact .inl rfl
  · rintro (rfl | shares)
    · rfl
    · exact shares.key_eq

def Shadowed (topics : List Topic) (topic : Topic) : Prop :=
  ∃ front other rest, topics = front ++ other :: rest ∧ other.Shares topic ∧ topic ∉ front

/-- A topic is shadowed where the first one that is remembered by its text is another one. -/
theorem shadowed_iff {topics : List Topic} {topic first : Topic}
    (known : ∀ other ∈ topics, other.Known) (known' : topic.Known)
    (found : topics.find? (fun other => other.key == topic.key) = some first) :
    Shadowed topics topic ↔ first ≠ topic := by
  constructor
  · rintro ⟨front, other, rest, rfl, shares, apart⟩
    have last : (other :: rest).find? (fun other => other.key == topic.key) = some other :=
      List.find?_cons_of_pos (beq_iff_eq.mpr shares.key_eq)
    rw [List.find?_append, last] at found
    rcases Option.or_eq_some_iff.mp found with earlier | ⟨-, same⟩
    · exact ne_of_mem_of_not_mem (List.mem_of_find?_eq_some earlier) apart
    · obtain rfl := Option.some.inj same
      exact shares.ne
  · intro differs
    obtain ⟨hit, front, rest, rfl, absent⟩ := List.find?_eq_some_iff_append.mp found
    have inside := known first (List.mem_append_right _ List.mem_cons_self)
    refine ⟨front, first, rest, rfl,
      ((Topic.key_eq_iff inside known').mp (beq_iff_eq.mp hit)).resolve_left differs, fun member => ?_⟩
    simpa using absent topic member

end Topics

section Findings

variable (registry : Registry) (scope : Scope) (context : CheckContext) (file : SourceFile)

def topicAnswers : List (Topic × Violation) :=
  (firstQuestions [] (questions scope context.root file)).filterMap fun (edge, lookup) =>
    (judge registry context.strict file.relativePath edge lookup).map fun found =>
      (topicOf (edge, lookup), found)

theorem fileCompliance_eq_topicAnswers :
    fileCompliance registry scope context file =
      (topicAnswers registry scope context file).map Prod.snd := by
  unfold topicAnswers
  rw [List.map_filterMap]
  refine List.filterMap_congr fun question _ => ?_
  simp

theorem topicOf_known (question : ImportEdge × Lookup)
    (asked : question ∈ questions scope context.root file) : (topicOf question).Known := by
  obtain ⟨edge, lookup⟩ := question
  obtain ⟨-, target, -, member⟩ := (mem_questions scope context.root file edge lookup).mp asked
  cases lookup with
  | component name => trivial
  | wholeBarrel how => exact wholeBarrel_mem_lookups edge target _ how member

theorem judge_isSome_congr (strict : Bool) (subject : String) {first second : ImportEdge × Lookup}
    (same : topicOf first = topicOf second) :
    (judge registry strict subject first.1 first.2).isSome =
      (judge registry strict subject second.1 second.2).isSome := by
  obtain ⟨edge, lookup⟩ := first
  obtain ⟨edge', lookup'⟩ := second
  cases lookup with
  | component name =>
      cases lookup' with
      | component other =>
          obtain rfl := Topic.component.inj same
          have equal : judge registry strict subject edge (.component name) = none ↔
              judge registry strict subject edge' (.component name) = none := by
            rw [judge_eq_none, judge_eq_none]
          rw [Bool.eq_iff_iff, Option.isSome_iff_ne_none, Option.isSome_iff_ne_none]
          exact equal.not
      | wholeBarrel how => contradiction
  | wholeBarrel how =>
      cases lookup' with
      | component other => contradiction
      | wholeBarrel other => rfl

/-- The findings about a topic are that about the question which is remembered first by its text, if this
is about the topic. -/
theorem filter_topicAnswers (topic : Topic) :
    (topicAnswers registry scope context file).filter (fun answer => answer.1 = topic) =
      (((questions scope context.root file).find?
          fun question => question.2.question question.1 == topic.key).toList.filter
            fun question => topicOf question = topic).filterMap fun question =>
        (judge registry context.strict file.relativePath question.1 question.2).map
          fun found => (topic, found) := by
  have firsts := filter_firstQuestions [] (questions scope context.root file) topic.key
  rw [if_neg (by simp)] at firsts
  rw [← firsts, List.filter_filter, topicAnswers, List.filter_filterMap, List.filterMap_filter]
  refine List.filterMap_congr fun (edge, lookup) _ => ?_
  by_cases about : topicOf (edge, lookup) = topic
  · subst about
    simp only [question_eq_key, decide_true, beq_self_eq_true, Bool.and_true, if_true]
    cases judge registry context.strict file.relativePath edge lookup <;> simp
  · simp only [about, decide_false, Bool.false_and, if_neg Bool.false_ne_true]
    cases judge registry context.strict file.relativePath edge lookup <;> simp [about]

/-- About a topic that is asked about, and to which the registry objects, a file has one finding, but
none where the topic is shadowed. -/
theorem topicAnswers_exact (question : ImportEdge × Lookup)
    (asked : question ∈ questions scope context.root file)
    (objects : judge registry context.strict file.relativePath question.1 question.2 ≠ none) :
    let all := questions scope context.root file
    let topics := all.map topicOf
    let found := (topicAnswers registry scope context file).filter
      fun answer => answer.1 = topicOf question
    (Shadowed topics (topicOf question) → found = []) ∧
      (¬ Shadowed topics (topicOf question) → ∃ first ∈ all, topicOf first = topicOf question ∧
        ∃ violation, found = [(topicOf question, violation)] ∧
          judge registry context.strict file.relativePath first.1 first.2 = some violation) := by
  intro all topics found
  have settled : found = _ := filter_topicAnswers registry scope context file (topicOf question)
  obtain ⟨first, hit⟩ : ∃ first, all.find? (fun other =>
      other.2.question other.1 == (topicOf question).key) = some first := by
    rw [← Option.isSome_iff_exists, List.find?_isSome]
    exact ⟨question, asked, by rw [question_eq_key, beq_self_eq_true]⟩
  have known := topicOf_known scope context file
  have inTopics : topics.find? (fun other => other.key == (topicOf question).key) =
      some (topicOf first) := by
    rw [List.find?_map, ← Option.map_some, ← hit]
    refine congrArg _ (List.find?_congr fun other _ => ?_)
    rw [question_eq_key]
    rfl
  have shadowed := shadowed_iff (List.forall_mem_map.mpr known) (known question asked) inTopics
  rw [hit, Option.toList_some] at settled
  rw [shadowed]
  constructor
  · intro differs
    rw [settled, List.filter_cons_of_neg (by simpa using differs)]
    rfl
  · intro same
    rw [not_not] at same
    have answered := judge_isSome_congr registry context.strict file.relativePath same
    rw [Option.isSome_iff_ne_none.mpr objects] at answered
    obtain ⟨violation, judged⟩ := Option.isSome_iff_exists.mp answered
    refine ⟨first, List.mem_of_find?_eq_some hit, same, violation, ?_, judged⟩
    rw [settled, List.filter_cons_of_pos (by simpa using same)]
    simp [judged]

end Findings

end Checks

namespace Gate

open Checks

theorem report_findings [Engine] (gate : Gate) (options : RunOptions) (check : Check)
    (selected : options.selects check = true) :
    ((gate.run options).violations.filter fun violation => violation.rule = check).Perm
      (check.findings (gate.context options.strict)) := by
  have listed : check ∈ Check.all.filter options.selects :=
    List.mem_filter.mpr ⟨by cases check <;> decide, selected⟩
  have own := filter_found gate options.strict _ (Check.all_nodup.filter options.selects) check
  rw [if_pos listed, found_eq] at own
  rw [run_eq_runInOrder, violations_runInOrder, ← own]
  exact (Violation.sort_perm _).filter _

/-- Where the registry and the globs of its section can be used, each file is looked at by itself. -/
theorem compliance_files [Engine] (context : CheckContext) (part : RegistrySection)
    (configured : context.config.registry = some part) (registry : Registry)
    (loaded : context.registry = some (.ok registry)) (ignore : PathGlobs)
    (compiled : PathGlobs.compile part.ignore = .ok ignore) :
    Check.registry.findings context = context.files.flatMap (fileCompliance registry
      { componentRoot := context.root.configured part.componentRoot, ignore } context) := by
  show compliance context = _
  unfold compliance
  rw [configured, loaded]
  dsimp only
  rw [compiled]

/-- The findings of a report about components are those about the topics that each file asks about. About
one to which the registry objects there is one finding, unless it is shadowed: then a component bears the
name under which an import of an index module is remembered, and the file asks about the other of the two
first. So of two different topics neither takes the finding of the other where nothing shares its text. -/
theorem report_topics [Engine] (gate : Gate) (options : RunOptions) (selected : options.selects .registry = true)
    (part : RegistrySection) (configured : gate.config.registry = some part) (registry : Registry)
    (loaded : gate.registry = some (.ok registry)) (ignore : PathGlobs)
    (compiled : PathGlobs.compile part.ignore = .ok ignore) :
    let context := gate.context options.strict
    let scope : Scope :=
      { componentRoot := context.root.configured part.componentRoot, ignore }
    ((gate.run options).violations.filter fun violation => violation.rule = .registry).Perm
      (context.files.flatMap fun file =>
        (topicAnswers registry scope context file).map Prod.snd) ∧
    ∀ file ∈ context.files,
      let asked := questions scope context.root file
      let topics := asked.map topicOf
      let judged := fun question : ImportEdge × Lookup =>
        judge registry options.strict file.relativePath question.1 question.2
      let about := fun topic =>
        (topicAnswers registry scope context file).filter fun answer => answer.1 = topic
      (∀ edge lookup, (edge, lookup) ∈ asked ↔ edge ∈ file.knownImports ∧
        ∃ target, scope.Covers context.root edge target ∧
          lookup ∈ lookups edge target (scope.isRootBarrel target)) ∧
      (∀ question ∈ asked, judged question ≠ none →
        (Shadowed topics (topicOf question) → about (topicOf question) = []) ∧
        (¬ Shadowed topics (topicOf question) → ∃ first ∈ asked, topicOf first = topicOf question ∧
          ∃ violation, about (topicOf question) = [(topicOf question, violation)] ∧
            judged first = some violation)) ∧
      ∀ one ∈ asked, ∀ two ∈ asked, topicOf one ≠ topicOf two →
        judged one ≠ none → judged two ≠ none →
        (∀ other ∈ topics, ¬ other.Shares (topicOf one) ∧ ¬ other.Shares (topicOf two)) →
        ∃ violation violation', about (topicOf one) = [(topicOf one, violation)] ∧
          about (topicOf two) = [(topicOf two, violation')] := by
  intro context scope
  constructor
  · refine (report_findings gate options .registry selected).trans (List.Perm.of_eq ?_)
    rw [compliance_files context part configured registry loaded ignore compiled]
    exact List.flatMap_congr fun file _ =>
      fileCompliance_eq_topicAnswers registry scope context file
  · intro file _ asked topics judged about
    have exact_ := topicAnswers_exact registry scope context file
    have clear : ∀ topic, (∀ other ∈ topics, ¬ other.Shares topic) → ¬ Shadowed topics topic := by
      rintro topic apart ⟨front, other, rest, split, shares, -⟩
      exact apart other (split ▸ List.mem_append_right _ List.mem_cons_self) shares
    refine ⟨fun edge lookup => mem_questions scope context.root file edge lookup, exact_, ?_⟩
    intro one inOne two inTwo _ objects objects' apart
    obtain ⟨-, -, -, violation, found, -⟩ := (exact_ one inOne objects).2
      (clear _ fun other member => (apart other member).1)
    obtain ⟨-, -, -, violation', found', -⟩ := (exact_ two inTwo objects').2
      (clear _ fun other member => (apart other member).2)
    exact ⟨violation, violation', found, found'⟩

theorem prepare_config {tree : FileTree} {root : Path} {config : GateConfig} {gate : Gate}
    (prepared : prepare tree root config = .ok gate) : gate.config = config := by
  obtain ⟨-, -, -, -, rfl⟩ := prepare_ok tree root config gate prepared
  rfl

/-- What is computed of a gate and its registry holds of one that is prepared. -/
theorem exists_prepared {tree : FileTree} {root : Path} {config : GateConfig}
    {holds : Gate → Registry → Bool}
    (computed : (prepare tree root config).toOption.any (fun gate =>
      (gate.registry.bind Except.toOption).any (holds gate)) = true) :
    ∃ gate registry, prepare tree root config = .ok gate ∧ gate.registry = some (.ok registry) ∧
      holds gate registry = true := by
  obtain ⟨gate, prepared, computed⟩ := (Option.any_eq_true _ _).mp computed
  obtain ⟨registry, read, computed⟩ := (Option.any_eq_true _ _).mp computed
  obtain ⟨result, loaded, succeeds⟩ := Option.bind_eq_some_iff.mp read
  exact ⟨gate, registry, ReachableSet.ok_of_toOption prepared,
    loaded.trans (congrArg some (ReachableSet.ok_of_toOption succeeds)), computed⟩

/-- A file that imports the default export of an index module, and from the same module an export that
bears the name under which this is remembered. -/
def namesakeTree : FileTree :=
  ((FileTree.add {} [['a', '.', 't', 's']]
      (.file (Text.encode "import all, \x7b 'default ./ui' as one \x7d from './ui'".toList))).add
    [['u', 'i'], ['i', 'n', 'd', 'e', 'x', '.', 't', 's']] (.file [])).add
    [['t', '.', 'j', 's', 'o', 'n']] (.file (Text.encode "\x7b\"components\":[]\x7d".toList))

def bareScope (gate : Gate) : Scope :=
  { componentRoot := gate.reachable.root.configured componentSection.componentRoot, ignore := ⟨[]⟩ }

section Examples

attribute [local instance] Engine.rough

theorem prepare_namesake : ∃ gate registry,
    prepare namesakeTree ⟨"/"⟩ componentConfig = .ok gate ∧ gate.registry = some (.ok registry) ∧
    gate.config.registry = some componentSection ∧
    (gate.run {}).violations.map Violation.message =
      ["default import of barrel './ui' cannot be checked against the registry"] ∧
    ∃ file ∈ (gate.context false).files, ∃ one two,
      questions gate.bareScope gate.reachable.root file = [one, two] ∧
      topicOf one = .wholeBarrel "default" "./ui" ∧ topicOf two = .component "default ./ui" ∧
      judge registry false file.relativePath one.1 one.2 ≠ none ∧
      judge registry false file.relativePath two.1 two.2 ≠ none := by
  have computed : (prepare namesakeTree ⟨"/"⟩ componentConfig).toOption.any (fun gate =>
      (gate.registry.bind Except.toOption).any fun registry =>
        decide ((gate.run {}).violations.map Violation.message =
          ["default import of barrel './ui' cannot be checked against the registry"]) &&
        (gate.context false).files.any fun file =>
          let asked := questions gate.bareScope gate.reachable.root file
          decide (asked.map topicOf =
            [.wholeBarrel "default" "./ui", .component "default ./ui"]) &&
          asked.all fun question =>
            (judge registry false file.relativePath question.1 question.2).isSome) = true := by
    decide +kernel
  obtain ⟨gate, registry, prepared, loaded, computed⟩ := exists_prepared computed
  obtain ⟨messages, computed⟩ := Bool.and_eq_true_iff.mp computed
  obtain ⟨file, member, computed⟩ := List.any_eq_true.mp computed
  obtain ⟨topics, judged⟩ := Bool.and_eq_true_iff.mp computed
  obtain ⟨one, rest, split, first, others⟩ := List.map_eq_cons_iff.mp (of_decide_eq_true topics)
  obtain ⟨two, none, rfl, second, last⟩ := List.map_eq_cons_iff.mp others
  obtain rfl := List.map_eq_nil_iff.mp last
  rw [split] at judged
  have objects := fun question member =>
    Option.isSome_iff_ne_none.mp (List.all_eq_true.mp judged question member)
  exact ⟨gate, registry, prepared, loaded, prepare_config prepared ▸ rfl, of_decide_eq_true messages,
    file, member, one, two, split, first, second, objects one (by simp), objects two (by simp)⟩

theorem report_topics_namesake : ∃ gate registry,
    prepare namesakeTree ⟨"/"⟩ componentConfig = .ok gate ∧
    RunOptions.selects {} .registry = true ∧ gate.config.registry = some componentSection ∧
    gate.registry = some (.ok registry) ∧
    PathGlobs.compile componentSection.ignore = .ok ⟨[]⟩ ∧
    ∃ file ∈ (gate.context false).files,
      let about := fun topic =>
        (topicAnswers registry gate.bareScope (gate.context false) file).filter
          fun answer => answer.1 = topic
      (∃ violation, about (.wholeBarrel "default" "./ui") =
        [(.wholeBarrel "default" "./ui", violation)]) ∧
      about (.component "default ./ui") = [] := by
  obtain ⟨gate, registry, prepared, loaded, configured, -, file, member, one, two, asked, first, second,
    objects, objects'⟩ := prepare_namesake
  have compiled : PathGlobs.compile componentSection.ignore = .ok ⟨[]⟩ := rfl
  obtain ⟨-, told⟩ := report_topics gate {} rfl componentSection configured registry loaded _ compiled
  obtain ⟨-, told, -⟩ := told file member
  change questions (Scope.mk ((gate.context false).root.configured componentSection.componentRoot) ⟨[]⟩)
    (gate.context false).root file = [one, two] at asked
  rw [asked] at told
  obtain ⟨-, answered⟩ := told one (by simp) objects
  obtain ⟨silent, -⟩ := told two (by simp) objects'
  simp only [List.map_cons, List.map_nil, first, second] at answered silent
  refine ⟨gate, registry, prepared, rfl, configured, loaded, compiled, file, member, ?_, ?_⟩
  · obtain ⟨-, -, -, violation, found, -⟩ := answered (by
      rintro ⟨front, other, rest, split, shares, apart⟩
      cases front with
      | nil =>
          obtain ⟨rfl, -⟩ := List.cons.inj split
          exact shares.ne rfl
      | cons before _ =>
          obtain ⟨rfl, -⟩ := List.cons.inj split
          exact apart List.mem_cons_self)
    exact ⟨violation, found⟩
  · exact silent ⟨[], _, _, rfl, .wholeBarrel "default" "./ui", List.not_mem_nil⟩

/-- A file asks about a component and about an index module, the registry objects to both, and the report
speaks of one of them alone. -/
theorem namesake_suppressed : ∃ gate registry,
    prepare namesakeTree ⟨"/"⟩ componentConfig = .ok gate ∧ gate.registry = some (.ok registry) ∧
    (∃ file ∈ (gate.context false).files, ∃ one two,
      questions gate.bareScope gate.reachable.root file = [one, two] ∧
      topicOf one = .wholeBarrel "default" "./ui" ∧ topicOf two = .component "default ./ui" ∧
      judge registry false file.relativePath one.1 one.2 ≠ none ∧
      judge registry false file.relativePath two.1 two.2 ≠ none) ∧
    (gate.run {}).violations.map Violation.message =
      ["default import of barrel './ui' cannot be checked against the registry"] := by
  obtain ⟨gate, registry, prepared, loaded, -, messages, asked⟩ := prepare_namesake
  exact ⟨gate, registry, prepared, loaded, asked, messages⟩

end Examples

end Gate

end UiContract
