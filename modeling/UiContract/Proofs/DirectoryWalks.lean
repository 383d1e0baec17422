import UiContract.Checks.Budgets
import UiContract.Proofs.PlainTrees

/-!
Walks below a directory, as `matched_files` makes them. A walk enters what it may skip at the start alone, and
it ends in an error where it comes to a directory that cannot be listed by its path; else it finds the files
that lie in no skipped directory. Links are not followed below the start.
-/
namespace UiContract.Checks

open FileTree

variable {tree : FileTree}

theorem mem_entriesBelow (place : List Name) (located : Located) :
    located ∈ entriesBelow tree place ↔ located.below ≠ [] ∧
      tree.entry? (place ++ located.below) = some located.entry ∧
      ∀ name ∈ if located.entry = .directory then located.below else located.below.dropLast,
        name ∉ skippedDirectories := by
  unfold entriesBelow
  rw [List.mem_filterMap]
  constructor
  · rintro ⟨⟨key, entry⟩, member, kept⟩
    dsimp only at kept
    split at kept
    · rename_i inside
      obtain ⟨begins, longer⟩ := Bool.and_eq_true_iff.mp inside
      obtain ⟨below, rfl⟩ := List.isPrefixOf_iff_prefix.mp begins
      rw [List.drop_left, Option.ite_none_left_eq_some] at kept
      obtain ⟨entered, same⟩ := kept
      obtain rfl := Option.some.inj same
      have some : below ≠ [] := by
        rintro rfl
        simp at longer
      refine ⟨some, ?_, by simpa using entered⟩
      unfold entry?
      rw [if_neg (by simp [some])]
      exact (tree.entries.find_eq_some_iff _ entry).mpr member
    · contradiction
  · rintro ⟨some, held, entered⟩
    refine ⟨(place ++ located.below, located.entry), mem_of_entry held (by simp [some]), ?_⟩
    dsimp only
    have longer : place.length < (place ++ located.below).length := by
      rw [List.length_append]
      exact Nat.lt_add_of_pos_right (List.length_pos_of_ne_nil some)
    rw [if_pos (by simpa using longer), List.drop_left, if_neg (by simpa using entered)]

/-- The walk from a path enters the directory that some names lead to. -/
structure Enters (tree : FileTree) (start : Path) (names : List Name) : Prop where
  held : ∃ place, tree.locate start = .ok place ∧ tree.entry? place = some .directory ∧
    tree.entry? (place ++ names) = some .directory
  entered : ∀ name ∈ names, name ∉ skippedDirectories

/-- Each directory that the walk from a path enters can be listed by its path. -/
def Listable (tree : FileTree) (start : Path) : Prop :=
  ∀ names, Enters tree start names → ∃ place, tree.locate (start.descend names) = .ok place

def WalkFinds (tree : FileTree) (start path : Path) : Prop :=
  ∃ paths, filesBelow tree start = .ok paths ∧ path ∈ paths

theorem fault_eq_none_iff (start : Path) (located : Located) : located.fault? tree start = none ↔
    (located.entry = .directory → ∃ place, tree.locate (start.descend located.below) = .ok place) := by
  unfold Located.fault?
  cases located.entry <;> cases tree.locate (start.descend located.below) <;> simp

/-- Nothing below a directory stops the walk just where each directory that is entered can be listed. -/
theorem faultless_iff {start : Path} {place : List Name} (located : tree.locate start = .ok place)
    (held : tree.entry? place = some .directory) :
    (entriesBelow tree place).findSome? (Located.fault? tree start) = none ↔ Listable tree start := by
  rw [List.findSome?_eq_none_iff]
  simp only [fault_eq_none_iff]
  constructor
  · intro each names enters
    obtain ⟨_, found, -, inside⟩ := enters.held
    obtain rfl := Except.ok.inj (located.symm.trans found)
    by_cases top : names = []
    · exact ⟨place, top ▸ located⟩
    · exact each ⟨names, .directory⟩
        ((mem_entriesBelow place _).mpr ⟨top, inside, enters.entered⟩) rfl
  · intro listable below member directory
    obtain ⟨-, inside, entered⟩ := (mem_entriesBelow place below).mp member
    rw [directory] at inside entered
    exact listable below.below ⟨⟨place, located, held, inside⟩, entered⟩

/-- A walk that starts in no directory enters nothing. -/
theorem listable_of_no_directory {start : Path}
    (other : ∀ place, tree.locate start = .ok place → tree.entry? place ≠ some .directory) :
    Listable tree start := by
  intro names enters
  obtain ⟨place, found, inside, -⟩ := enters.held
  exact absurd inside (other place found)

theorem filesBelow_ok_iff (start : Path) :
    (∃ paths, filesBelow tree start = .ok paths) ↔ Listable tree start := by
  unfold filesBelow
  cases located : tree.locate start with
  | error reason =>
      refine iff_of_true ⟨[], rfl⟩ (listable_of_no_directory fun place found => ?_)
      rw [located] at found
      contradiction
  | ok place =>
      have same : ∀ other, tree.locate start = .ok other → place = other :=
        fun other found => Except.ok.inj (located.symm.trans found)
      dsimp only
      split
      · rename_i held
        rw [← faultless_iff located held]
        split
        · rename_i error fault
          rw [fault]
          exact iff_of_false (fun ⟨_, failed⟩ => nomatch failed) (Option.some_ne_none error)
        · rename_i none
          exact iff_of_true ⟨_, rfl⟩ none
      · rename_i content held
        refine iff_of_true ⟨_, rfl⟩ (listable_of_no_directory fun other found => ?_)
        rw [← same other found, held]
        exact nofun
      · rename_i neither _
        refine iff_of_true ⟨[], rfl⟩ (listable_of_no_directory fun other found => ?_)
        rw [← same other found]
        exact neither

theorem filesBelow_of_unlocated {start : Path} (nowhere : ∀ place, tree.locate start ≠ .ok place) :
    filesBelow tree start = .ok [] := by
  unfold filesBelow
  cases located : tree.locate start with
  | error reason => rfl
  | ok place => exact absurd located (nowhere place)

theorem mem_entriesBelow_files (start : Path) (place : List Name) (path : Path) :
    path ∈ (entriesBelow tree place).filterMap (Located.file? start) ↔ ∃ names bytes, names ≠ [] ∧
      tree.entry? (place ++ names) = some (.file bytes) ∧
      (∀ name ∈ names.dropLast, name ∉ skippedDirectories) ∧ path = start.descend names := by
  rw [List.mem_filterMap]
  constructor
  · rintro ⟨⟨below, entry⟩, listed, kept⟩
    obtain ⟨some, held, entered⟩ := (mem_entriesBelow place _).mp listed
    cases entry with
    | file bytes => exact ⟨below, bytes, some, held, entered, (Option.some.inj kept).symm⟩
    | directory => contradiction
    | link target => contradiction
  · rintro ⟨names, bytes, some, held, entered, rfl⟩
    exact ⟨⟨names, .file bytes⟩, (mem_entriesBelow place _).mpr ⟨some, held, entered⟩, rfl⟩

variable (linkless : tree.Linkless)

include linkless

/-- The walk from a path finds the files below it that lie in no skipped directory. -/
theorem mem_filesBelow {start : Path} {paths : List Path} (searched : filesBelow tree start = .ok paths)
    (path : Path) : path ∈ paths ↔ ∃ place names bytes, tree.locate start = .ok place ∧
      tree.entry? (place ++ names) = some (.file bytes) ∧
      (∀ name ∈ names.dropLast, name ∉ skippedDirectories) ∧ path = start.descend names := by
  unfold filesBelow at searched
  cases located : tree.locate start with
  | error reason =>
      rw [located] at searched
      rw [← Except.ok.inj searched]
      simp
  | ok place =>
      rw [located] at searched
      dsimp only at searched
      split at searched
      · rename_i directory
        split at searched
        · contradiction
        · rw [← Except.ok.inj searched, mem_entriesBelow_files]
          constructor
          · rintro ⟨names, bytes, -, held, entered, rfl⟩
            exact ⟨place, names, bytes, rfl, held, entered, rfl⟩
          · rintro ⟨_, names, bytes, found, held, entered, rfl⟩
            obtain rfl := Except.ok.inj found
            refine ⟨names, bytes, ?_, held, entered, rfl⟩
            rintro rfl
            rw [List.append_nil, directory] at held
            cases held
      · rename_i content file
        rw [linkless.isLink_path, if_neg Bool.false_ne_true] at searched
        rw [← Except.ok.inj searched, List.mem_singleton]
        constructor
        · rintro rfl
          exact ⟨place, [], content, rfl, by rwa [List.append_nil], nofun, rfl⟩
        · rintro ⟨_, names, bytes, found, held, -, rfl⟩
          obtain rfl := Except.ok.inj found
          by_cases some : names = []
          · rw [some]
            rfl
          · rw [linkless.directory_above held some] at file
            cases file
      · rename_i other neither
        rw [← Except.ok.inj searched]
        refine iff_of_false List.not_mem_nil ?_
        rintro ⟨_, names, bytes, found, held, -, -⟩
        obtain rfl := Except.ok.inj found
        by_cases some : names = []
        · rw [some, List.append_nil] at held
          exact neither _ held
        · exact other (linkless.directory_above held some)

theorem walkFinds_iff {start : Path} (listable : Listable tree start) (path : Path) :
    WalkFinds tree start path ↔ ∃ place names bytes, tree.locate start = .ok place ∧
      tree.entry? (place ++ names) = some (.file bytes) ∧
      (∀ name ∈ names.dropLast, name ∉ skippedDirectories) ∧ path = start.descend names := by
  obtain ⟨paths, searched⟩ := (filesBelow_ok_iff start).mpr listable
  rw [← mem_filesBelow linkless searched]
  constructor
  · rintro ⟨_, same, member⟩
    exact Except.ok.inj (searched.symm.trans same) ▸ member
  · exact fun member => ⟨paths, searched, member⟩

theorem WalkFinds.spelled {start path : Path} (found : WalkFinds tree start path) :
    ∃ place names bytes, tree.locate start = .ok place ∧
      tree.entry? (place ++ names) = some (.file bytes) ∧
      (∀ name ∈ names.dropLast, name ∉ skippedDirectories) ∧ path = start.descend names := by
  obtain ⟨paths, searched, member⟩ := found
  exact (mem_filesBelow linkless searched path).mp member

omit linkless in
/-- Where all names are plain a directory can be listed if its path is short enough. -/
theorem listable_iff_short (plain : tree.Plain) (start : Path) : Listable tree start ↔
    ∀ names, Enters tree start names → Text.byteSize (start.descend names).text.toList < pathLimit := by
  constructor
  · intro listable names enters
    obtain ⟨place, found⟩ := listable names enters
    exact (tree.locate_ok _ place found).1
  · intro short names enters
    obtain ⟨place, located, -, held⟩ := enters.held
    have bound := short names enters
    have written : start.text ≠ "" := ((locate_iff start place).mp located).1
    refine ⟨place ++ names, ?_⟩
    clear enters
    -- From the start down, since a path is not longer than what lies below it.
    induction names using List.reverseRecOn with
    | nil => rwa [List.append_nil]
    | append_singleton names last ih =>
        have plainLast : PlainName last := plain.names held last (by simp)
        have named : ∀ name ∈ names, Path.Plain (.normal name) := fun name member =>
          (plain.names held name (by simp [member])).plain
        have step : start.descend (names ++ [last]) =
            (start.descend names).join (String.ofList last) := List.foldl_concat ..
        have longer := Path.byteSize_join (Path.descend_ne_empty written named) (String.ofList last)
          plainLast.plain.relative
        rw [step] at bound ⊢
        rw [← List.append_assoc] at held ⊢
        have directory := plain.linkless.directory_above held (List.cons_ne_nil last [])
        exact locate_entry plain.linkless _ (ih directory (by omega)) last plainLast held bound

end UiContract.Checks
