import UiContract.Proofs.DisplayedPaths

/-!
The shape of a path that `normalize_path` has folded. Folding only ever puts down steps that it was given, so
it finds a root just where the path begins at one: behind it stand names alone, and nothing climbs above it.
Without a root the steps up that found nothing to take back stand in front of the names.
-/
namespace UiContract.Path

theorem mem_foldStep {step other : Component} {folded : List Component}
    (member : step ∈ foldStep folded other) : step = other ∨ step ∈ folded := by
  cases other with
  | root => exact List.mem_cons.mp member
  | current => exact .inr member
  | normal name => exact List.mem_cons.mp member
  | parent =>
      cases folded with
      | nil => exact List.mem_cons.mp member
      | cons top rest =>
          cases top with
          | root => exact .inr member
          | current => exact .inr member
          | parent => exact List.mem_cons.mp member
          | normal name => exact .inr (List.mem_cons_of_mem _ member)

theorem mem_foldl {step : Component} (steps folded : List Component)
    (member : step ∈ steps.foldl foldStep folded) : step ∈ steps ∨ step ∈ folded := by
  induction steps generalizing folded with
  | nil => exact .inr member
  | cons first rest ih =>
      rcases ih _ member with later | before
      · exact .inl (List.mem_cons_of_mem first later)
      · rcases mem_foldStep before with rfl | below
        · exact .inl List.mem_cons_self
        · exact .inr below

theorem root_mem_fold (steps : List Component) : Component.root ∈ fold steps ↔ Component.root ∈ steps := by
  rw [fold, List.mem_reverse]
  exact ⟨fun member => (mem_foldl steps [] member).resolve_right List.not_mem_nil,
    fun member => root_mem_foldl steps [] (.inr member)⟩

theorem isAbsolute_normalize (path : Path) : path.normalize.isAbsolute = path.isAbsolute := by
  rw [Bool.eq_iff_iff, ← root_mem_solid, ← root_mem_solid, normalize_solid, root_mem_fold]

theorem normalize_relative {path : Path} (relative : path.isAbsolute = false) :
    ∃ climbs, ∃ names : List (List Char),
      path.normalize.components = List.replicate climbs .parent ++ names.map .normal := by
  have rootless : Component.root ∉ fold path.solid := by
    rw [root_mem_fold, root_mem_solid, relative]
    exact Bool.false_ne_true
  obtain ⟨names, climbs, shape | shape⟩ := fold_folded path.solid_tidy
  · refine ⟨climbs, names.reverse, ?_⟩
    rw [normalize_components, ← List.reverse_reverse (fold path.solid), shape, List.reverse_append,
      List.reverse_replicate, List.map_reverse]
  · refine absurd (List.mem_reverse.mp ?_) rootless
    rw [shape]
    exact List.mem_append_right _ List.mem_cons_self

/-- A folded path is its own folded form and begins at the root just where the path does. At the root it has
names alone behind it, else steps up in front of names. What is joined to a path can be joined to its folded
form as well. -/
theorem folded_exact (path : Path) (added : String) :
    path.normalize.isAbsolute = path.isAbsolute ∧
    (path.isAbsolute = true → ∃ names : List (List Char),
      path.normalize.components = .root :: names.map .normal) ∧
    (path.isAbsolute = false → ∃ climbs, ∃ names : List (List Char),
      path.normalize.components = List.replicate climbs .parent ++ names.map .normal) ∧
    path.normalize.normalize = path.normalize ∧
    (path.join added).normalize = (path.normalize.join added).normalize :=
  ⟨path.isAbsolute_normalize, fun absolute => (normalize_absolute absolute).names, normalize_relative,
    path.normalize_normalize, (path.normalize_join_normalize added).symm⟩

theorem folded_exact_climbing : (Path.mk "/a/../../b").isAbsolute = true ∧
    (Path.mk "a/./../../b").isAbsolute = false ∧
    (∃ names : List (List Char), (Path.mk "/a/../../b").normalize.components = .root :: names.map .normal) ∧
    ∃ climbs, ∃ names : List (List Char), (Path.mk "a/./../../b").normalize.components =
      List.replicate climbs .parent ++ names.map .normal :=
  ⟨rfl, rfl, (folded_exact ⟨"/a/../../b"⟩ "").2.1 rfl, (folded_exact ⟨"a/./../../b"⟩ "").2.2.1 rfl⟩

end UiContract.Path
