import UiContract.Proofs.BudgetUnions

/-!
Skipped directories of `matched_files`. A glob leads into a directory that is skipped if its literal pieces
name it, and only then: what it names behind its first wildcard is not entered, though it matches files
there.
-/
namespace UiContract.Checks

open FileTree PathGlobs

section Entrances

/-- Every special name in front of the last one is in a beginning of the names if none is left behind it. -/
theorem forall_begun_iff {begin names : List Name} (begins : begin <+: names) (special : Name → Prop) :
    (∀ (i : Nat) name, names.dropLast[i]? = some name → special name → begin[i]? = some name) ↔
      ∀ name ∈ (names.drop begin.length).dropLast, ¬ special name := by
  rw [List.dropLast_drop_eq_drop_dropLast]
  constructor
  · intro begun name member kind
    obtain ⟨i, here⟩ := List.getElem?_of_mem member
    rw [List.getElem?_drop] at here
    have inside := begun _ name here kind
    rw [List.getElem?_eq_none (Nat.le_add_right begin.length i)] at inside
    contradiction
  · intro behind i name here kind
    by_cases early : i < begin.length
    · -- In front of its end the beginning has the same names.
      obtain ⟨rest, rfl⟩ := begins
      rw [List.getElem?_dropLast, Option.ite_none_right_eq_some] at here
      rw [← List.getElem?_append_left early]
      exact here.2
    · obtain ⟨j, rfl⟩ := Nat.exists_eq_add_of_le (Nat.le_of_not_lt early)
      rw [← List.getElem?_drop] at here
      exact absurd kind (behind name (List.mem_of_getElem? here))

variable {tree : FileTree} {root : Path} {glob : String} {names : List Name}

/-- What the search finds lies in no directory that is skipped behind the literal pieces. -/
theorem entered_of_found (linkless : tree.Linkless) (written : root.text ≠ "")
    (glob_ne_empty : PathFilter.normalize glob ≠ "") (literal : ∀ name ∈ literalPieces glob, PlainName name)
    {rest : List Name} (path : Path) (found : WalkFinds tree (literalPath root glob) path)
    (lies : path.components = root.components ++ (literalPieces glob ++ rest).map .normal) :
    ∀ name ∈ rest.dropLast, name ∉ skippedDirectories := by
  obtain ⟨final, others, bytes, -, held, entered, rfl⟩ := found.spelled linkless
  have below : ∀ name ∈ others, Path.Plain (.normal name) := fun name member =>
    linkless.names held name (List.mem_append_right final member)
  have inner : (literalPath root glob).components =
      root.components ++ (literalPieces glob).map .normal := by
    rcases literalPath_cases root glob_ne_empty with ⟨none, same⟩ | ⟨some, same, relative⟩
    · rw [same, none, List.map_nil, List.append_nil]
    · rw [same, Path.join_components written _ relative, pieces_shown literal some,
        filterMap_names literal]
  have start_ne_empty : (literalPath root glob).text ≠ "" := by
    rcases literalPath_cases root glob_ne_empty with ⟨-, same⟩ | ⟨-, same, relative⟩
    · rw [same]
      exact written
    · rw [same]
      exact Path.join_ne_empty written _ relative
  rw [Path.descend_components start_ne_empty below, inner, List.append_assoc, List.map_append] at lies
  have same := List.append_cancel_left (List.append_cancel_left lies)
  obtain rfl := List.map_injective_iff.mpr (fun _ _ => Component.normal.inj) same
  exact entered

/-- A file that a glob matches is selected if each directory that the search enters can be listed, the search
can start, and each skipped directory on the way is one of the literal pieces of the glob, and only then. -/
theorem budgetFiles_named [Engine] {globs : PathGlobs} (linkless : tree.Linkless)
    (compiled : compile [glob] = .ok globs) (named : ∀ name ∈ names, PlainName name)
    (held : HasFile tree root names) (accepted : globs.accepts (shown names) = true) :
    (∃ files, budgetFiles tree root [glob] globs = .ok files ∧ ∃ file ∈ files,
      file.relative = shown names ∧ file.path.components = root.components ++ names.map .normal) ↔
      Listable tree (literalPath root glob) ∧
        Text.byteSize (literalPath root glob).text.toList < pathLimit ∧
        ∀ (i : Nat) name, names.dropLast[i]? = some name → name ∈ skippedDirectories →
          (literalPieces glob)[i]? = some name := by
  have written : root.text ≠ "" := by
    obtain ⟨place, bytes, located, -⟩ := held
    exact ((locate_iff root place).mp located).1
  rw [accepts_single compiled] at accepted
  have begins := literalPieces_prefix named accepted
  have given := List.mem_singleton_self glob
  rw [forall_begun_iff begins]
  constructor
  · rintro ⟨files, selected, file, member, -, lies⟩
    refine ⟨budgetFiles_ok_iff.mp ⟨files, selected⟩ glob given, ?_, ?_⟩
    · by_contra long
      rw [budgetFiles_of_long tree root glob globs (Nat.le_of_not_lt long)] at selected
      obtain rfl := Except.ok.inj selected
      exact nomatch member
    · obtain ⟨-, listed, same, path, found, rfl⟩ := found_of_selected selected member
      rw [List.mem_singleton.mp same] at found
      dsimp only at lies
      obtain ⟨pattern, read, -⟩ := accepted
      have glob_ne_empty := ((compileOne_some glob pattern).mp read).1
      obtain ⟨rest, rfl⟩ := begins
      rw [List.drop_left]
      exact entered_of_found linkless written glob_ne_empty
        (fun name literal => named name (List.mem_append_left rest literal)) path found lies
  · rintro ⟨listable, short, entered⟩
    obtain ⟨files, selected⟩ : ∃ files, budgetFiles tree root [glob] globs = .ok files :=
      budgetFiles_ok_iff.mpr (List.forall_mem_singleton.mpr listable)
    obtain ⟨path, found, lies⟩ :=
      found_of_matches written linkless names named held accepted entered listable short
    have shows := relativeTo_names lies
    rw [← shows, ← accepts_single compiled] at accepted
    obtain ⟨kept, member, same⟩ := selected_of_found selected given found accepted
    obtain ⟨shows', lies'⟩ := (compare_selected_iff kept _).mp same
    exact ⟨files, selected, kept, member, shows'.trans shows, lies'.trans lies⟩

end Entrances

section Vendors

attribute [local instance] Engine.rough

def vendoredTree : FileTree where
  entries := .ofList [(["src".toList], .directory), (["src".toList, "node_modules".toList], .directory),
    (["src".toList, "node_modules".toList, "a.js".toList], .file [65])]

theorem vendoredTree_plain : vendoredTree.Plain where
  named := by decide
  rooted := by decide
  unlinked := by decide

def vendored : List Name := ["src".toList, "node_modules".toList, "a.js".toList]

theorem vendored_held : HasFile vendoredTree ⟨"/"⟩ vendored :=
  ⟨[], [65], by rfl, by decide⟩

def spelledGlob : String := "src/node_modules/*.js"

def wildGlob : String := "*/node_modules/*.js"

theorem budgetFiles_named_vendored : ∃ files, budgetFiles vendoredTree ⟨"/"⟩ [spelledGlob]
    (globsOf [spelledGlob]) = .ok files ∧ ∃ file ∈ files, file.relative = shown vendored ∧
      file.path.components = (Path.mk "/").components ++ vendored.map .normal := by
  have compiled : compile [spelledGlob] = .ok (globsOf [spelledGlob]) := ok_getD_of_isOk (by decide) _
  have walked : (filesBelow vendoredTree (literalPath ⟨"/"⟩ spelledGlob)).isOk = true := by decide +kernel
  refine (budgetFiles_named vendoredTree_plain.linkless compiled (by decide) vendored_held
    (by decide)).mpr ⟨(filesBelow_ok_iff _).mp ⟨_, ok_getD_of_isOk walked []⟩, by decide +kernel, ?_⟩
  have begins : literalPieces spelledGlob <+: vendored := by decide
  rw [forall_begun_iff begins]
  decide

/-- A script in a skipped directory that each piece of a glob matches is not selected, though one of these
pieces is the name of the directory. -/
theorem budgetFiles_behind_wildcard : vendoredTree.Plain ∧
    compile [wildGlob] = .ok (globsOf [wildGlob]) ∧ HasFile vendoredTree ⟨"/"⟩ vendored ∧
    (globsOf [wildGlob]).accepts (shown vendored) = true ∧
    Text.pieces (· == '/') (PathFilter.normalize wildGlob).toList =
      ["*".toList, "node_modules".toList, "*.js".toList] ∧
    budgetFiles vendoredTree ⟨"/"⟩ [wildGlob] (globsOf [wildGlob]) = .ok [] :=
  ⟨vendoredTree_plain, ok_getD_of_isOk (by decide) _, vendored_held, by decide +kernel,
    by decide, by decide +kernel⟩

end Vendors

end UiContract.Checks
