import Mathlib.Data.List.Find
import UiContract.Proofs.Reachability
import UiContract.Proofs.Strictness

/-!
What the check of components says about a file, from `lookups` and `judge`. It asks about a component once
for each file, at the first import that names it, and has a finding exactly when the registry does not list
the component as canonical. Imports stand in the order of their lines, so the first one has the least line.
-/
namespace UiContract

theorem ImportDeclaration.inOrder_ascending (tree : Script.Tree) :
    (inOrder tree).Pairwise fun first second => first.line ≤ second.line := by
  have transitive : ∀ first second third : ImportDeclaration,
      decide (first.line ≤ second.line) = true → decide (second.line ≤ third.line) = true →
      decide (first.line ≤ third.line) = true := by
    intro first second third before after
    exact decide_eq_true ((of_decide_eq_true before).trans (of_decide_eq_true after))
  have total : ∀ first second : ImportDeclaration,
      (decide (first.line ≤ second.line) || decide (second.line ≤ first.line)) = true := by
    intro first second
    simpa using Nat.le_total first.line second.line
  exact (List.pairwise_mergeSort transitive total (collect tree)).imp
    fun before => of_decide_eq_true before

theorem ImportEdge.extract_ascending (resolver : Resolver) (tree : FileTree) (importer : Path)
    (text : String) (edges : List ImportEdge)
    (read : extract resolver tree importer text = .ok edges) :
    edges.Pairwise fun first second => first.line ≤ second.line := by
  rw [extract_ok resolver tree read]
  split
  · exact List.pairwise_map.mpr (ImportDeclaration.inOrder_ascending _)
  · exact .nil

namespace Reachability.Walk

/-- The imports of a file that was visited stand in the order of their lines. -/
theorem knownImports_ascending (resolver : Resolver) (tree : FileTree) (path : Path) :
    (visited resolver tree path).knownImports.Pairwise
      fun first second => first.line ≤ second.line := by
  unfold SourceFile.knownImports visited
  dsimp only
  split
  · rename_i edges read
    cases edges with
    | nil => exact .nil
    | cons edge rest =>
        obtain ⟨bytes, text, -, -, extracted⟩ := importsOf_ok resolver tree path (edge :: rest)
          (Option.some.inj read) edge List.mem_cons_self
        exact ImportEdge.extract_ascending resolver tree path text _ extracted
  · exact .nil

end Reachability.Walk

theorem ReachableSet.build_visited (resolver : Resolver) (tree : FileTree) (sourceRoot : String)
    (entries : List String) (reached : ReachableSet)
    (built : build resolver tree sourceRoot entries = .ok reached) (file : SourceFile)
    (member : file ∈ reached.files.values) :
    ∃ path, file = Reachability.Walk.visited resolver tree path := by
  obtain ⟨⟨-, files⟩, turns, -, rfl⟩ := build_walked resolver tree sourceRoot entries reached built
  have sound := Reachability.Walk.turns_sound (Reachability.Walk.start_sound resolver tree
    (resolver.root.configured sourceRoot) _ fun path listed => by
      obtain ⟨entry, written, rfl⟩ := List.mem_map.mp listed
      exact files entry written) turns
  obtain ⟨entry, held, rfl⟩ := List.mem_map.mp member
  exact ⟨entry.1, sound.read entry held⟩

/-- A prepared gate holds what was built from its configuration, and the registry that the
configuration names. -/
theorem Gate.prepare_ok (tree : FileTree) (root : Path) (config : GateConfig) (gate : Gate)
    (prepared : prepare tree root config = .ok gate) :
    ∃ resolver,
      Resolver.make { projectRoot := root, aliases := config.aliases.entries,
                      extensions := config.extensions } = .ok resolver ∧
      ∃ reachable,
        ReachableSet.build resolver tree config.sourceRoot config.entries = .ok reachable ∧
        gate = { tree, config, reachable,
                 registry := config.registry.map fun tables =>
                   Registry.load tree (reachable.root.join tables.table) } := by
  unfold prepare at prepared
  dsimp only at prepared
  split at prepared
  · contradiction
  · rename_i resolver made
    split at prepared
    · contradiction
    · rename_i reachable built
      exact ⟨resolver, made, reachable, built, (Except.ok.inj prepared).symm⟩

namespace Checks

section Questions

/-- An import that the registry has a say about: it brings values in from a script file below the
directory of the components that no glob spares. -/
structure Scope.Covers (scope : Scope) (root : Path) (edge : ImportEdge) (target : Path) : Prop where
  plain : edge.typeOnly = false
  direct : edge.kind ≠ .reExport
  leads : edge.resolved = some target
  below : target.startsWith scope.componentRoot = true
  script : (Language.ofPath target).isScript = true
  counted : scope.ignore.accepts (target.relativeTo root) = false

theorem Scope.target_eq_some (scope : Scope) (root : Path) (edge : ImportEdge) (target : Path) :
    scope.target? root edge = some target ↔ scope.Covers root edge target := by
  unfold Scope.target?
  constructor
  · intro found
    cases led : edge.resolved with
    | none => simp [led] at found
    | some file =>
        simp only [led, Option.bind_eq_bind, Option.bind_some, Option.ite_none_left_eq_some,
          Bool.or_eq_true, not_or, Bool.not_eq_true, Bool.not_eq_true', Bool.not_eq_false,
          beq_eq_false_iff_ne, Option.some.injEq] at found
        obtain ⟨⟨⟨⟨⟨plain, direct⟩, below⟩, script⟩, counted⟩, rfl⟩ := found
        exact ⟨plain, direct, led, below, script, counted⟩
  · rintro ⟨plain, direct, leads, below, script, counted⟩
    simp [leads, plain, direct, below, script, counted]

/-- An import asks about a component under this name: it brings in the export of the name, whatever
it is called afterwards, or the module itself goes by the name. -/
inductive Names (edge : ImportEdge) (target : Path) (rootBarrel : Bool) : String → Prop where
  | named (imported localName : String) : .named imported localName ∈ edge.bindings →
      Names edge target rootBarrel imported
  | defaultExport (localName moduleName : String) :
      .defaultExport localName moduleName ∈ edge.bindings → rootBarrel = false →
      Names edge target rootBarrel moduleName
  | wholeModule (localName : String) (name : List Char) : .wholeModule localName ∈ edge.bindings →
      target.isBarrel = false → target.moduleName? = some name →
      Names edge target rootBarrel (String.ofList name)
  | bare (name : List Char) : edge.bindings = [] →
      (target.isBarrel = false ∨ edge.kind ≠ .sideEffect) → rootBarrel = false →
      target.moduleName? = some name → Names edge target rootBarrel (String.ofList name)

theorem mem_moduleComponent (target : Path) (lookup : Lookup) :
    lookup ∈ moduleComponent target ↔
      ∃ name, target.moduleName? = some name ∧ lookup = .component (String.ofList name) := by
  simp [moduleComponent, eq_comm]

/-- An import asks what its bindings ask. Without any it asks about the module as a whole, but not about
an index module that is imported for its side effects. -/
theorem mem_lookups (edge : ImportEdge) (target : Path) (rootBarrel : Bool) (lookup : Lookup) :
    lookup ∈ lookups edge target rootBarrel ↔
      (edge.bindings = [] ∧ (target.isBarrel = false ∨ edge.kind ≠ .sideEffect) ∧
        if rootBarrel then lookup = .wholeBarrel "dynamic" else lookup ∈ moduleComponent target) ∨
      ∃ binding ∈ edge.bindings, lookup ∈ bindingLookups target rootBarrel binding := by
  cases bound : edge.bindings with
  | nil =>
      simp only [lookups, bound, List.isEmpty_nil, if_true]
      by_cases silent : (target.isBarrel && edge.kind == .sideEffect) = true
      · rw [if_pos silent]
        simp_all
      · have counted : target.isBarrel = false ∨ edge.kind ≠ .sideEffect := by
          simpa [imp_iff_not_or] using silent
        rw [if_neg silent]
        cases rootBarrel <;> simp [counted]
  | cons binding rest => simp [lookups, bound]

/-- The component that a binding asks about: the export that it brings in, or the one that the module
goes by, unless the module is an index module. -/
theorem component_mem_bindingLookups (target : Path) (rootBarrel : Bool) (binding : ImportBinding)
    (name : String) : .component name ∈ bindingLookups target rootBarrel binding ↔
      match binding with
      | .named imported _ => name = imported
      | .defaultExport _ moduleName => rootBarrel = false ∧ name = moduleName
      | .wholeModule _ => target.isBarrel = false ∧
          ∃ module, target.moduleName? = some module ∧ name = String.ofList module := by
  cases binding with
  | named imported localName => simp [bindingLookups]
  | defaultExport localName moduleName => cases rootBarrel <;> simp [bindingLookups]
  | wholeModule localName =>
      cases single : target.isBarrel <;> simp [bindingLookups, single, mem_moduleComponent]

/-- The names that an import asks about are those of its lookups of components. -/
theorem component_mem_lookups (edge : ImportEdge) (target : Path) (rootBarrel : Bool)
    (name : String) :
    .component name ∈ lookups edge target rootBarrel ↔ Names edge target rootBarrel name := by
  rw [mem_lookups]
  constructor
  · rintro (⟨bare, counted, asked⟩ | ⟨binding, held, asked⟩)
    · split at asked
      · contradiction
      · rename_i inner
        obtain ⟨module, called, same⟩ := (mem_moduleComponent target _).mp asked
        rw [Lookup.component.inj same]
        exact .bare module bare counted (by simpa using inner) called
    · have given := (component_mem_bindingLookups target rootBarrel binding name).mp asked
      cases binding with
      | named imported localName =>
          rw [given]
          exact .named imported localName held
      | defaultExport localName moduleName =>
          rw [given.2]
          exact .defaultExport localName moduleName held given.1
      | wholeModule localName =>
          obtain ⟨single, module, called, rfl⟩ := given
          exact .wholeModule localName module held single called
  · have asked := fun binding given =>
      (component_mem_bindingLookups target rootBarrel binding name).mpr given
    intro asks
    cases asks with
    | named imported localName held => exact .inr ⟨_, held, asked _ rfl⟩
    | defaultExport localName moduleName held inner => exact .inr ⟨_, held, asked _ ⟨inner, rfl⟩⟩
    | wholeModule localName module held single called =>
        exact .inr ⟨_, held, asked _ ⟨single, module, called, rfl⟩⟩
    | bare module bare counted inner called =>
        refine .inl ⟨bare, counted, ?_⟩
        rw [if_neg (by simp [inner])]
        exact (mem_moduleComponent target _).mpr ⟨module, called, rfl⟩

theorem wholeBarrel_mem_bindingLookups (target : Path) (rootBarrel : Bool) (binding : ImportBinding)
    (how : String) : .wholeBarrel how ∈ bindingLookups target rootBarrel binding ↔
      match binding with
      | .named _ _ => False
      | .defaultExport _ _ => rootBarrel = true ∧ how = "default"
      | .wholeModule _ => target.isBarrel = true ∧ how = "namespace" := by
  cases binding with
  | named imported localName => simp [bindingLookups]
  | defaultExport localName moduleName => cases rootBarrel <;> simp [bindingLookups]
  | wholeModule localName =>
      cases barrel : target.isBarrel <;> simp [bindingLookups, barrel, mem_moduleComponent]

theorem wholeBarrel_mem_lookups_iff (edge : ImportEdge) (target : Path) (rootBarrel : Bool)
    (how : String) : .wholeBarrel how ∈ lookups edge target rootBarrel ↔
      (how = "namespace" ∧ target.isBarrel = true ∧ ∃ localName, .wholeModule localName ∈ edge.bindings) ∨
      (how = "default" ∧ rootBarrel = true ∧
        ∃ localName moduleName, .defaultExport localName moduleName ∈ edge.bindings) ∨
      (how = "dynamic" ∧ rootBarrel = true ∧ edge.bindings = [] ∧
        (target.isBarrel = false ∨ edge.kind ≠ .sideEffect)) := by
  rw [mem_lookups]
  constructor
  · rintro (⟨bare, counted, asked⟩ | ⟨binding, held, asked⟩)
    · split at asked
      · rename_i outer
        exact .inr (.inr ⟨Lookup.wholeBarrel.inj asked, outer, bare, counted⟩)
      · simp [mem_moduleComponent] at asked
    · have given := (wholeBarrel_mem_bindingLookups target rootBarrel binding how).mp asked
      cases binding with
      | named imported localName => contradiction
      | defaultExport localName moduleName =>
          exact .inr (.inl ⟨given.2, given.1, localName, moduleName, held⟩)
      | wholeModule localName => exact .inl ⟨given.2, given.1, localName, held⟩
  · have asked := fun binding given =>
      (wholeBarrel_mem_bindingLookups target rootBarrel binding how).mpr given
    rintro (⟨rfl, barrel, localName, held⟩ | ⟨rfl, outer, localName, moduleName, held⟩ |
      ⟨rfl, outer, bare, counted⟩)
    · exact .inr ⟨_, held, asked _ ⟨barrel, rfl⟩⟩
    · exact .inr ⟨_, held, asked _ ⟨outer, rfl⟩⟩
    · exact .inl ⟨bare, counted, by rw [if_pos outer]⟩

/-- In these ways an import can ask about a whole index module. -/
def barrelWays : List String := ["namespace", "default", "dynamic"]

theorem wholeBarrel_mem_lookups (edge : ImportEdge) (target : Path) (rootBarrel : Bool)
    (how : String) (member : .wholeBarrel how ∈ lookups edge target rootBarrel) :
    how ∈ barrelWays := by
  rcases (wholeBarrel_mem_lookups_iff edge target rootBarrel how).mp member with
    ⟨rfl, -⟩ | ⟨rfl, -⟩ | ⟨rfl, -⟩ <;> simp [barrelWays]

/-- The questions of a file in the order of its imports, repeated ones included. -/
def questions (scope : Scope) (root : Path) (file : SourceFile) : List (ImportEdge × Lookup) :=
  file.knownImports.flatMap fun edge =>
    match scope.target? root edge with
    | some target =>
        (lookups edge target (scope.isRootBarrel target)).map fun lookup => (edge, lookup)
    | none => []

def Scope.Asks (scope : Scope) (root : Path) (edge : ImportEdge) (name : String) : Prop :=
  ∃ target, scope.Covers root edge target ∧ Names edge target (scope.isRootBarrel target) name

variable (scope : Scope) (root : Path) (file : SourceFile)

theorem mem_questions (edge : ImportEdge) (lookup : Lookup) :
    (edge, lookup) ∈ questions scope root file ↔ edge ∈ file.knownImports ∧
      ∃ target, scope.Covers root edge target ∧
        lookup ∈ lookups edge target (scope.isRootBarrel target) := by
  unfold questions
  constructor
  · intro member
    obtain ⟨asking, known, asked⟩ := List.mem_flatMap.mp member
    split at asked
    · rename_i target found
      obtain ⟨other, inLookups, same⟩ := List.mem_map.mp asked
      obtain ⟨rfl, rfl⟩ := Prod.mk.inj same
      exact ⟨known, target, (scope.target_eq_some root asking target).mp found, inLookups⟩
    · contradiction
  · rintro ⟨known, target, covers, inLookups⟩
    refine List.mem_flatMap.mpr ⟨edge, known, ?_⟩
    rw [(scope.target_eq_some root edge target).mpr covers]
    exact List.mem_map.mpr ⟨lookup, inLookups, rfl⟩

theorem mem_questions_component (edge : ImportEdge) (name : String) :
    (edge, .component name) ∈ questions scope root file ↔
      edge ∈ file.knownImports ∧ scope.Asks root edge name := by
  rw [mem_questions]
  simp only [component_mem_lookups, Scope.Asks]

theorem questions_ascending
    (ascending : file.knownImports.Pairwise fun first second => first.line ≤ second.line) :
    (questions scope root file).Pairwise fun first second => first.1.line ≤ second.1.line := by
  have own : ∀ edge, ∀ question ∈ (match scope.target? root edge with
      | some target => (lookups edge target (scope.isRootBarrel target)).map
          fun lookup => (edge, lookup)
      | none => []), question.1 = edge := by
    intro edge question member
    split at member
    · obtain ⟨lookup, -, rfl⟩ := List.mem_map.mp member
      rfl
    · contradiction
  unfold questions
  refine List.pairwise_flatMap.mpr ⟨fun edge _ => ?_, ascending.imp fun {first second} before => ?_⟩
  · refine List.pairwise_of_forall_mem_list fun one inOne other inOther => ?_
    rw [own edge one inOne, own edge other inOther]
  · intro one inOne other inOther
    rw [own first one inOne, own second other inOther]
    exact before

end Questions

section Answers

/-- Of the questions that are told apart by a key only the first one is kept, unless it was asked
before. -/
theorem filter_firstQuestions (asked : List String) (all : List (ImportEdge × Lookup))
    (key : String) :
    (firstQuestions asked all).filter (fun question => question.2.question question.1 == key) =
      if asked.contains key then []
      else (all.find? fun question => question.2.question question.1 == key).toList := by
  -- Of the questions that were asked only this one matters, so they are general in the induction.
  induction all generalizing asked with
  | nil => simp [firstQuestions]
  | cons head rest ih =>
      obtain ⟨edge, lookup⟩ := head
      by_cases hit : lookup.question edge = key
      · by_cases repeated : asked.contains (lookup.question edge) = true
        · simp only [firstQuestions, if_pos repeated, ih]
          rw [hit] at repeated
          simp only [if_pos repeated]
        · simp only [firstQuestions, if_neg repeated]
          rw [List.filter_cons_of_pos (by simpa using hit), ih]
          rw [hit] at repeated ⊢
          simp only [if_neg repeated]
          simp [hit]
      · have passed : ((edge, lookup) :: rest).find? (fun question =>
            question.2.question question.1 == key) = rest.find? fun question =>
              question.2.question question.1 == key :=
          List.find?_cons_of_neg (by simpa using hit)
        rw [passed]
        by_cases repeated : asked.contains (lookup.question edge) = true
        · simp only [firstQuestions, if_pos repeated, ih]
        · simp only [firstQuestions, if_neg repeated]
          rw [List.filter_cons_of_neg (by simpa using hit), ih]
          simp [Ne.symm hit]

def Reserved (name : String) : Prop :=
  ∃ how ∈ barrelWays, Text.startsWith name (how ++ " ") = true

theorem afterStart_append (start rest : List Char) :
    Text.afterStart? start (start ++ rest) = some rest := by
  induction start with
  | nil => cases rest <;> rfl
  | cons first more ih => simpa [Text.afterStart?] using ih

variable (registry : Registry) (scope : Scope) (context : CheckContext) (file : SourceFile)

/-- Questions about components and about index modules are told apart, unless the name of the
component is reserved. -/
theorem question_eq_iff (edge : ImportEdge) (lookup : Lookup) (name : String)
    (free : ¬ Reserved name) (asked : (edge, lookup) ∈ questions scope context.root file) :
    lookup.question edge = name ↔ lookup = .component name := by
  cases lookup with
  | component other => simp [Lookup.question]
  | wholeBarrel how =>
      constructor
      · intro same
        obtain ⟨-, target, -, member⟩ := (mem_questions scope context.root file _ _).mp asked
        refine absurd ⟨how, wholeBarrel_mem_lookups _ _ _ how member, ?_⟩ free
        rw [← same, Lookup.question, Text.startsWith]
        simp only [String.toList_append, afterStart_append]
        rfl
      · intro same
        contradiction

def answers : List (Lookup × Violation) :=
  (firstQuestions [] (questions scope context.root file)).filterMap fun (edge, lookup) =>
    (judge registry context.strict file.relativePath edge lookup).map fun found => (lookup, found)

theorem fileCompliance_eq_answers :
    fileCompliance registry scope context file =
      (answers registry scope context file).map Prod.snd := by
  unfold answers
  rw [List.map_filterMap]
  refine List.filterMap_congr fun question _ => ?_
  simp

theorem mem_of_firstQuestions (asked : List String) (all : List (ImportEdge × Lookup))
    (question : ImportEdge × Lookup) (first : question ∈ firstQuestions asked all) :
    question ∈ all := by
  induction all generalizing asked with
  | nil => contradiction
  | cons head rest ih =>
      unfold firstQuestions at first
      dsimp only at first
      split at first
      · exact List.mem_cons_of_mem head (ih _ first)
      · rcases List.mem_cons.mp first with rfl | later
        · exact List.mem_cons_self
        · exact List.mem_cons_of_mem head (ih _ later)

/-- The answers about a component are that of the import which asks about it first. -/
theorem answers_component (name : String) (free : ¬ Reserved name) :
    (answers registry scope context file).filter (fun answer => answer.1 = .component name) =
      ((questions scope context.root file).find?
          fun question => question.2 = .component name).toList.filterMap fun question =>
        (judge registry context.strict file.relativePath question.1 (.component name)).map
          fun found => (Lookup.component name, found) := by
  have keyed : ∀ question ∈ questions scope context.root file,
      (question.2.question question.1 == name) = decide (question.2 = .component name) := by
    intro question asked
    rw [Bool.eq_iff_iff, beq_iff_eq, decide_eq_true_iff]
    exact question_eq_iff scope context file question.1 question.2 name free asked
  have firsts : (firstQuestions [] (questions scope context.root file)).filter
      (fun question => question.2 = .component name) =
        ((questions scope context.root file).find?
          fun question => question.2 = .component name).toList := by
    have kept := filter_firstQuestions [] (questions scope context.root file) name
    rw [List.filter_congr fun question member => keyed question (mem_of_firstQuestions _ _ _ member),
      List.find?_congr keyed] at kept
    simpa using kept
  rw [← firsts, answers, List.filter_filterMap, List.filterMap_filter]
  refine List.filterMap_congr fun (edge, lookup) _ => ?_
  by_cases hit : lookup = .component name
  · subst hit
    dsimp only
    cases judge registry context.strict file.relativePath edge (.component name) <;> simp
  · dsimp only
    cases judge registry context.strict file.relativePath edge lookup <;> simp [hit]

def Objects (name : String) : Prop :=
  ∀ entry, registry.find? name = some entry → entry.status ≠ .canonical

def complaint (name : String) : String :=
  match registry.find? name with
  | none => "imports " ++ name ++ ", which is not in the component registry"
  | some entry => statusMessage entry

/-- A finding about a component that the imports of a file ask about. It stands where it is asked
first and is an error, unless the component is listed as compat and the run is not strict. -/
structure Finding (strict : Bool) (name : String) (asks : ImportEdge → Prop)
    (violation : Violation) : Prop where
  rule : violation.rule = .registry
  subject : violation.subject = file.relativePath
  message : violation.message = complaint registry name
  line : ∃ edge, asks edge ∧ violation.line = some edge.line ∧
    ∀ other, asks other → edge.line ≤ other.line
  level : violation.level =
    if strict = false ∧ (registry.find? name).map RegistryEntry.status = some .compat then .warning
    else .error

theorem judge_eq_none (strict : Bool) (subject : String) (edge : ImportEdge) (name : String) :
    judge registry strict subject edge (.component name) = none ↔ ¬ Objects registry name := by
  cases known : registry.find? name with
  | none => simp [judge, Objects, known]
  | some entry =>
      rw [judge_listed registry strict subject edge name entry known]
      unfold Objects
      rw [known]
      cases status : entry.status <;> simp_all [statusLevel?]

theorem judge_eq_some (strict : Bool) (edge : ImportEdge) (name : String) (violation : Violation)
    (asks : ImportEdge → Prop) (asking : asks edge)
    (first : ∀ other, asks other → edge.line ≤ other.line)
    (judged : judge registry strict file.relativePath edge (.component name) = some violation) :
    Finding registry file strict name asks violation := by
  cases known : registry.find? name with
  | none =>
      simp only [judge, known, Option.some.injEq] at judged
      rw [← judged, Violation.withHint, if_neg (by decide)]
      exact ⟨rfl, rfl, by simp [complaint, known, Violation.atLine, Violation.error],
        ⟨edge, asking, rfl, first⟩, by simp [known, Violation.atLine, Violation.error]⟩
  | some entry =>
      rw [judge_listed registry strict file.relativePath edge name entry known] at judged
      obtain ⟨level, chosen, rfl⟩ := Option.map_eq_some_iff.mp judged
      obtain ⟨hint, written, -⟩ := listed_eq entry file.relativePath edge level
      rw [written]
      refine ⟨rfl, rfl, ?_, ⟨edge, asking, rfl, first⟩, ?_⟩
      · simp [complaint, known]
      · cases status : entry.status <;> cases strict <;> simp_all [statusLevel?]

/-- Of the imports that ask about a component the first one is asked, if any is. -/
theorem find_questions_component (name : String)
    (ascending : file.knownImports.Pairwise fun first second => first.line ≤ second.line) :
    let asks := fun edge => edge ∈ file.knownImports ∧ scope.Asks context.root edge name
    match (questions scope context.root file).find?
        fun question => question.2 = .component name with
    | none => ∀ edge, ¬ asks edge
    | some question => asks question.1 ∧ ∀ other, asks other → question.1.line ≤ other.line := by
  intro asks
  split
  · rename_i missing
    intro edge asking
    have member := (mem_questions_component scope context.root file edge name).mpr asking
    simpa using List.find?_eq_none.mp missing _ member
  · rename_i question found
    obtain ⟨hit, before, after, listed, apart⟩ := List.find?_eq_some_iff_append.mp found
    have hit' : question.2 = .component name := by simpa using hit
    have known : (question.1, Lookup.component name) ∈ questions scope context.root file := by
      rw [← hit']
      exact List.mem_of_find?_eq_some found
    refine ⟨(mem_questions_component scope context.root file _ name).mp known, ?_⟩
    intro other asking
    have member := (mem_questions_component scope context.root file other name).mpr asking
    have ordered := questions_ascending scope context.root file ascending
    rw [listed] at member ordered
    -- Nothing in front of the first hit asks, and what stands behind it has no smaller line.
    rcases List.mem_append.mp member with earlier | later
    · simpa using apart _ earlier
    · rcases List.mem_cons.mp later with same | behind
      · rw [← same]
      · exact (List.pairwise_cons.mp (List.pairwise_append.mp ordered).2.1).1 _ behind

/-- A file has an answer about a component exactly when one of its imports asks about a component that
is not canonical, and then a single one. -/
theorem answers_exact (name : String) (free : ¬ Reserved name)
    (ascending : file.knownImports.Pairwise fun first second => first.line ≤ second.line) :
    let asks := fun edge => edge ∈ file.knownImports ∧ scope.Asks context.root edge name
    let found := (answers registry scope context file).filter
      fun answer => answer.1 = .component name
    (found ≠ [] ↔ (∃ edge, asks edge) ∧ Objects registry name) ∧
      ∀ answer ∈ found,
        found = [answer] ∧ Finding registry file context.strict name asks answer.2 := by
  intro asks found
  have settled : found = _ := answers_component registry scope context file name free
  have first := find_questions_component scope context file name ascending
  split at first
  · rename_i missing
    have quiet : found = [] := by simp [settled, missing]
    rw [quiet]
    refine ⟨iff_of_false (by simp) ?_, nofun⟩
    rintro ⟨⟨edge, asking⟩, -⟩
    exact first edge asking
  · rename_i question asked
    obtain ⟨asking, least⟩ := first
    cases judged : judge registry context.strict file.relativePath question.1
        (.component name) with
    | none =>
        have quiet : found = [] := by simp [settled, asked, judged]
        rw [quiet]
        refine ⟨iff_of_false (by simp) ?_, nofun⟩
        rintro ⟨-, objects⟩
        exact (judge_eq_none registry _ _ _ name).mp judged objects
    | some violation =>
        have single : found = [(.component name, violation)] := by simp [settled, asked, judged]
        have objects : Objects registry name := by
          by_contra canonical
          rw [(judge_eq_none registry _ _ _ name).mpr canonical] at judged
          contradiction
        rw [single]
        refine ⟨iff_of_true (by simp) ⟨⟨question.1, asking⟩, objects⟩, ?_⟩
        intro answer listed
        rw [List.mem_singleton.mp listed]
        exact ⟨rfl, judge_eq_some registry file _ question.1 name violation asks asking least judged⟩

end Answers

end Checks

namespace Gate

open Checks

/-- When the registry of a prepared gate is loaded and the globs of its section can be read, the
findings of the check are the answers of the files. A file has an answer about a component exactly
when some import asks about it that the registry has a say about, and the registry does not list the
component as canonical. It then has a single one, which stands at the least line of such an import. -/
theorem findings_component [Engine] (tree : FileTree) (root : Path) (config : GateConfig) (gate : Gate)
    (prepared : prepare tree root config = .ok gate) (part : RegistrySection)
    (configured : gate.config.registry = some part) (registry : Registry)
    (loaded : gate.registry = some (.ok registry)) (ignore : PathGlobs)
    (compiled : PathGlobs.compile part.ignore = .ok ignore) (strict : Bool) :
    let context := gate.context strict
    let scope : Scope :=
      { componentRoot := context.root.configured part.componentRoot, ignore }
    Check.registry.findings context = context.files.flatMap (fun file =>
      (answers registry scope context file).map Prod.snd) ∧
    ∀ file ∈ context.files, ∀ name, ¬ Reserved name →
      let asks := fun edge => edge ∈ file.knownImports ∧ scope.Asks context.root edge name
      let found := (answers registry scope context file).filter
        fun answer => answer.1 = .component name
      (found ≠ [] ↔ (∃ edge, asks edge) ∧ Objects registry name) ∧
      ∀ answer ∈ found, found = [answer] ∧ Finding registry file strict name asks answer.2 := by
  intro context scope
  constructor
  · show compliance context = _
    have configured' : context.config.registry = some part := configured
    have loaded' : context.registry = some (.ok registry) := loaded
    unfold compliance
    rw [configured', loaded']
    dsimp only
    rw [compiled]
    exact List.flatMap_congr fun file _ => fileCompliance_eq_answers registry scope context file
  · intro file member name free
    obtain ⟨resolver, -, reachable, built, rfl⟩ := prepare_ok tree root config gate prepared
    obtain ⟨path, rfl⟩ := ReachableSet.build_visited resolver tree _ _ reachable built file member
    exact answers_exact registry scope context _ name free
      (Reachability.Walk.knownImports_ascending resolver tree path)

def componentTree : FileTree :=
  ((FileTree.add {} [['a', '.', 't', 's']]
      (.file (Text.encode "import { Old as New, Old } from './ui/Old'".toList))).add
    [['u', 'i'], ['O', 'l', 'd', '.', 't', 's']] (.file [])).add
    [['t', '.', 'j', 's', 'o', 'n']]
      (.file (Text.encode
        "\x7b\"components\":[\x7b\"name\":\"Old\",\"status\":\"compat\"\x7d]\x7d".toList))

def componentSection : RegistrySection := { table := "t.json", componentRoot := "ui" }

def componentConfig : GateConfig :=
  { schemaVersion := 1, sourceRoot := ".", entries := ["a.ts"], extensions := [".ts"],
    registry := some componentSection }

section Examples

attribute [local instance] Engine.rough

theorem findings_component_compat :
    ∃ gate registry, prepare componentTree ⟨"/"⟩ componentConfig = .ok gate ∧
      gate.config.registry = some componentSection ∧ gate.registry = some (.ok registry) ∧
      PathGlobs.compile componentSection.ignore = .ok ⟨[]⟩ ∧ ¬ Reserved "Old" ∧
      let context := gate.context false
      let scope : Scope :=
        { componentRoot := context.root.configured componentSection.componentRoot, ignore := ⟨[]⟩ }
      ∃ file ∈ context.files, ∃ answer,
        (answers registry scope context file).filter
          (fun answer => answer.1 = .component "Old") = [answer] ∧
        Finding registry file false "Old"
          (fun edge => edge ∈ file.knownImports ∧ scope.Asks context.root edge "Old") answer.2 := by
  have computed : (prepare componentTree ⟨"/"⟩ componentConfig).toOption.any (fun gate =>
      (gate.registry.bind Except.toOption).any fun registry =>
        let context := gate.context false
        context.files.any fun file => !((answers registry
          { componentRoot := context.root.configured componentSection.componentRoot,
            ignore := ⟨[]⟩ } context file).filter
              fun answer => answer.1 = .component "Old").isEmpty) = true := by decide +kernel
  cases prepared : prepare componentTree ⟨"/"⟩ componentConfig with
  | error reason =>
      rw [prepared] at computed
      contradiction
  | ok gate =>
      rw [prepared, Except.toOption, Option.any_some, Option.any_eq_true] at computed
      obtain ⟨registry, read, computed⟩ := computed
      obtain ⟨result, loaded, done⟩ := Option.bind_eq_some_iff.mp read
      cases result with
      | error reason => contradiction
      | ok table =>
          obtain rfl : table = registry := Option.some.inj done
          have configured : gate.config.registry = some componentSection := by
            obtain ⟨-, -, -, -, rfl⟩ := prepare_ok _ _ _ _ prepared
            rfl
          have compiled : PathGlobs.compile componentSection.ignore = .ok ⟨[]⟩ := rfl
          have free : ¬ Reserved "Old" := by
            unfold Reserved
            decide
          obtain ⟨file, member, answered⟩ := List.any_eq_true.mp computed
          have told := (findings_component _ _ _ gate prepared _ configured table loaded _ compiled
            false).2 file member "Old" free
          rw [Bool.not_eq_true', ← Bool.not_eq_true, List.isEmpty_iff] at answered
          obtain ⟨answer, listed⟩ := List.exists_mem_of_ne_nil _ answered
          exact ⟨gate, table, rfl, configured, loaded, compiled, free, file, member, answer,
            told.2 answer listed⟩

end Examples

end Gate

end UiContract
