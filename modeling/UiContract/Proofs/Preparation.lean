import UiContract.Proofs.Compliance
import UiContract.Proofs.FoldedPaths

/-!
When `prepare` can prepare a gate. A configuration that was accepted makes sense as a whole, so it has a
resolver and names an entry; all that is left to go wrong is an entry that leads to no file, and the first
such entry is the reason that is given.
-/
namespace UiContract

namespace GateConfig

structure Sensible (config : GateConfig) : Prop where
  version : config.schemaVersion = 1
  sourceRoot : Text.isBlankText config.sourceRoot = false
  entries : config.entries ≠ []
  extensions : ∀ extension ∈ config.extensions, Text.startsWith extension "." = true
  aliases : config.aliases.contains "" = false
  wrappers : ∀ shell, config.shell = some shell → shell.wrappers ≠ [] ∧
    ∀ wrapper ∈ shell.wrappers, Text.isBlankText wrapper = false

theorem shellProblem_eq_none (shell : ShellSection) : shellProblem? shell = none ↔
    shell.wrappers ≠ [] ∧ ∀ wrapper ∈ shell.wrappers, Text.isBlankText wrapper = false := by
  unfold shellProblem?
  by_cases empty : shell.wrappers = []
  · simp [empty]
  · by_cases blank : shell.wrappers.any Text.isBlankText = true
    · simp_all
    · simp_all

theorem problem_eq_none (config : GateConfig) : config.problem? = none ↔ config.Sensible := by
  unfold problem?
  constructor
  · intro sound
    split at sound
    · contradiction
    · rename_i version
      split at sound
      · contradiction
      · rename_i root
        split at sound
        · contradiction
        · rename_i entries
          split at sound
          · contradiction
          · rename_i dotted
            split at sound
            · contradiction
            · rename_i aliases
              refine ⟨by simpa [currentVersion] using version, by simpa using root,
                by simpa using entries, ?_, by simpa using aliases, ?_⟩
              · simpa using dotted
              · intro shell configured
                rw [configured] at sound
                exact (shellProblem_eq_none shell).mp sound
  · intro sensible
    have version : ¬ (config.schemaVersion != currentVersion) = true := by
      rw [sensible.version]
      decide
    have dotted : config.extensions.find? (fun extension => !Text.startsWith extension ".") = none := by
      simpa using sensible.extensions
    rw [if_neg version, if_neg (by simp [sensible.sourceRoot]),
      if_neg (by simpa using sensible.entries), dotted]
    dsimp only
    rw [if_neg (by simp [sensible.aliases])]
    cases configured : config.shell with
    | none => rfl
    | some shell => exact (shellProblem_eq_none shell).mpr (sensible.wrappers shell configured)

theorem sensible_of_ofToml (text : String) (config : GateConfig)
    (accepted : ofToml text = .ok config) : config.Sensible := by
  unfold ofToml at accepted
  split at accepted
  · contradiction
  · split at accepted
    · split at accepted <;> contradiction
    · split at accepted
      · contradiction
      · rename_i problem
        rw [← Except.ok.inj accepted]
        exact (problem_eq_none _).mp problem

def resolverSettings (config : GateConfig) (root : Path) : ResolverSettings :=
  { projectRoot := root, aliases := config.aliases.entries, extensions := config.extensions }

theorem Sensible.resolver {config : GateConfig} (sensible : config.Sensible) (root : Path) :
    ∃ resolver, Resolver.make (config.resolverSettings root) = .ok resolver ∧
      resolver.root = root.normalize := by
  have named : config.aliases.entries.any (fun entry => entry.1 == "") = false := by
    rw [List.any_eq_false]
    intro entry member empty
    have listed := config.aliases.contains_of_mem entry member
    rw [beq_iff_eq.mp empty, sensible.aliases] at listed
    contradiction
  have dotted : config.extensions.find? (fun extension => !Text.startsWith extension ".") = none := by
    simpa using sensible.extensions
  unfold Resolver.make resolverSettings
  dsimp only
  rw [named, if_neg Bool.false_ne_true, dotted]
  exact ⟨_, rfl, rfl⟩

end GateConfig

namespace Reachability

variable (resolver : Resolver) (tree : FileTree)

theorem entryPaths_eq (entries : List String) : entryPaths resolver tree entries =
    match entries.find? fun entry => !tree.isFile (entryPath resolver entry) with
    | some entry => .error (.missingEntry (entryPath resolver entry))
    | none => .ok (entries.map (entryPath resolver)) := by
  induction entries with
  | nil => rfl
  | cons first rest ih =>
      rw [entryPaths, List.mapM_cons, ← entryPaths, ih]
      by_cases file : tree.isFile (entryPath resolver first) = true
      · rw [List.find?_cons_of_neg (by simp [file])]
        dsimp only
        rw [if_pos file]
        cases rest.find? fun entry => !tree.isFile (entryPath resolver entry) <;> rfl
      · rw [List.find?_cons_of_pos (by simpa using file)]
        dsimp only
        rw [if_neg file]
        rfl

end Reachability

namespace Gate

variable (tree : FileTree) (root : Path) {config : GateConfig}

def missingEntry? (entries : List String) : Option String :=
  entries.find? fun entry => !tree.isFile (root.join entry).normalize

theorem prepare_error (sensible : config.Sensible) (error : GateError) :
    prepare tree root config = .error error ↔
      ∃ entry, missingEntry? tree root config.entries = some entry ∧
        error = .reachability (.missingEntry (root.join entry).normalize) := by
  obtain ⟨resolver, made, below⟩ := sensible.resolver root
  have paths : ∀ entry, Reachability.entryPath resolver entry = (root.join entry).normalize := by
    intro entry
    rw [Reachability.entryPath, below, Path.normalize_join_normalize]
  have read := Reachability.entryPaths_eq resolver tree config.entries
  -- The resolver starts at the root in normal form, which leads to the same files.
  simp only [paths] at read
  unfold GateConfig.resolverSettings at made
  unfold prepare ReachableSet.build missingEntry?
  dsimp only
  rw [made]
  dsimp only
  rw [if_neg (by simpa using sensible.entries), read]
  cases config.entries.find? fun entry => !tree.isFile (root.join entry).normalize with
  | none =>
      constructor
      · intro failed
        contradiction
      · rintro ⟨entry, absent, -⟩
        contradiction
  | some entry =>
      constructor
      · intro failed
        exact ⟨entry, rfl, (Except.error.inj failed).symm⟩
      · rintro ⟨other, same, told⟩
        rw [told, ← Option.some.inj same]
        rfl

theorem missingEntry_eq_none (entries : List String) : missingEntry? tree root entries = none ↔
    ∀ entry ∈ entries, tree.isFile (root.join entry).normalize = true := by
  unfold missingEntry?
  simp

theorem prepare_isOk (sensible : config.Sensible) : (∃ gate, prepare tree root config = .ok gate) ↔
    ∀ entry ∈ config.entries, tree.isFile (root.join entry).normalize = true := by
  rw [← missingEntry_eq_none]
  constructor
  · rintro ⟨gate, prepared⟩
    by_contra missing
    obtain ⟨entry, found⟩ := Option.ne_none_iff_exists'.mp missing
    have failed := (prepare_error tree root sensible _).mpr ⟨entry, found, rfl⟩
    rw [prepared] at failed
    contradiction
  · intro none
    cases prepared : prepare tree root config with
    | ok gate => exact ⟨gate, rfl⟩
    | error reason =>
        obtain ⟨entry, found, -⟩ := (prepare_error tree root sensible reason).mp prepared
        rw [none] at found
        contradiction

end Gate

end UiContract
