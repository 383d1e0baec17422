import UiContract.Proofs.Reachability
import UiContract.Proofs.Trimming

/-!
Where `resolve` leads with the specifier of an import. The specifier loses the blanks around it and what
follows its first `?` or `#`; an alias that applies or the directory of the importing file makes a base of
it, and the first regular file among the paths that are tried for the base is what it leads to. Here each of
these is said without the functions that compute it.
-/
namespace UiContract

namespace Text

theorem afterStart_iff (start text rest : List Char) :
    afterStart? start text = some rest ↔ text = start ++ rest := by
  induction start generalizing text with
  | nil => simp [afterStart?, eq_comm]
  | cons expected more ih =>
      cases text with
      | nil => simp [afterStart?]
      | cons character text =>
          rw [afterStart?]
          split
          · rename_i same
            rw [ih, beq_iff_eq.mp same, List.cons_append, List.cons.injEq]
            simp
          · rename_i other
            rw [beq_iff_eq] at other
            simp [Ne.symm other]

end Text

namespace Resolver

open Text

/-- A specifier is what is left of a written one when the blanks around it are gone and it is cut at
the first `?` or `#`. -/
def Cleans (written : String) (specifier : List Char) : Prop :=
  ∃ front inner back, written.toList = front ++ inner ++ back ∧
    (∀ character ∈ front ++ back, isBlank character = true) ∧ Bare isBlank inner ∧
    (∀ character ∈ specifier, character ≠ '?' ∧ character ≠ '#') ∧
    (inner = specifier ∨
      ∃ mark rest, (mark = '?' ∨ mark = '#') ∧ inner = specifier ++ mark :: rest)

def IsRelative (specifier : List Char) : Prop :=
  specifier = ".".toList ∨ specifier = "..".toList ∨ "./".toList <+: specifier ∨
    "../".toList <+: specifier

/-- An alias applies to a specifier that begins with it, where a piece of the specifier ends. -/
def Applies (shortcut : String) (specifier : List Char) : Prop :=
  ∃ rest, specifier = shortcut.toList ++ rest ∧
    (shortcut.toList.getLast? = some '/' ∨ rest = [] ∨ rest.head? = some '/')

def aliasPath (target : Path) (rest : List Char) : Path :=
  if rest.dropWhile (· == '/') = [] then target
  else target.join (String.ofList (rest.dropWhile (· == '/')))

def directory (resolver : Resolver) (importer : Path) : Path :=
  importer.parent?.getD resolver.root

/-- A path is the base of a specifier: what the first alias that applies makes of it, or where none
applies and the specifier is relative, what the directory of the file makes of it. -/
def IsBase (resolver : Resolver) (importer : Path) (specifier : List Char) (base : Path) : Prop :=
  (∃ front shortcut target back rest, resolver.aliases = front ++ (shortcut, target) :: back ∧
    (∀ entry ∈ front, ¬ Applies entry.1 specifier) ∧ Applies shortcut specifier ∧
    specifier = shortcut.toList ++ rest ∧ base = (aliasPath target rest).normalize) ∨
  ((∀ entry ∈ resolver.aliases, ¬ Applies entry.1 specifier) ∧ IsRelative specifier ∧
    base = ((resolver.directory importer).join (String.ofList specifier)).normalize)

/-- The first of some paths that is a regular file. -/
def IsFirstFile (tree : FileTree) (paths : List Path) (found : Path) : Prop :=
  ∃ front back, paths = front ++ found :: back ∧ tree.isFile found = true ∧
    ∀ path ∈ front, tree.isFile path = false

section Specifiers

theorem clean_cleans (written : String) : Cleans written (clean written) := by
  obtain ⟨front, back, whole, blanks⟩ := dropEnds_parts isBlank written.toList
  refine ⟨front, dropEnds isBlank written.toList, back, whole, blanks, dropEnds_bare isBlank _, ?_, ?_⟩
  · intro character member
    have kept := List.mem_takeWhile_imp member
    simpa using kept
  · unfold clean before
    have parts := List.takeWhile_append_dropWhile (l := dropEnds isBlank written.toList)
      (p := fun character => !(character == '?' || character == '#'))
    cases rest : (dropEnds isBlank written.toList).dropWhile
        fun character => !(character == '?' || character == '#') with
    | nil =>
        rw [rest, List.append_nil] at parts
        exact .inl parts.symm
    | cons mark rest' =>
        refine .inr ⟨mark, rest', ?_, ?_⟩
        · have cut := head_dropWhile (fun character => !(character == '?' || character == '#'))
            (dropEnds isBlank written.toList) mark (by rw [rest]; rfl)
          simpa [or_iff_not_imp_left] using cut
        · rw [rest] at parts
          exact parts.symm

/-- What stands behind a `?` after a specifier without blanks around it does not matter. -/
theorem clean_query (written query : String) (bare : Bare isBlank written.toList) :
    clean (written ++ "?" ++ query) = clean written := by
  have text : (written ++ "?" ++ query).toList = written.toList ++ '?' :: query.toList := by
    simp
  obtain ⟨rest, kept⟩ := dropEnds_mark isBlank _ query.toList '?' bare (by decide)
  unfold clean before
  rw [text, kept, dropEnds_of_bare isBlank _ bare, List.takeWhile_append]
  split
  · rename_i all
    rw [(List.takeWhile_prefix _).eq_of_length all]
    simp
  · rfl

theorem clean_clean (written : String) (bare : Bare isBlank (clean written)) :
    clean (String.ofList (clean written)) = clean written := by
  unfold clean at bare ⊢
  rw [String.toList_ofList, dropEnds_of_bare isBlank _ bare]
  unfold before
  exact List.takeWhile_idem

theorem isRelative_iff (specifier : List Char) :
    isRelative specifier = true ↔ IsRelative specifier := by
  unfold isRelative IsRelative
  simp [or_assoc]

theorem afterAlias_iff (shortcut : String) (specifier below : List Char) :
    afterAlias? shortcut specifier = some below ↔ Applies shortcut specifier ∧
      ∃ rest, specifier = shortcut.toList ++ rest ∧ rest.dropWhile (· == '/') = below := by
  unfold afterAlias? Applies
  cases cut : afterStart? shortcut.toList specifier with
  | none =>
      have apart : ∀ rest, specifier ≠ shortcut.toList ++ rest := by
        intro rest same
        rw [(afterStart_iff _ _ _).mpr same] at cut
        contradiction
      simp [apart]
  | some rest =>
      obtain rfl := (afterStart_iff _ _ _).mp cut
      simp [or_assoc]

theorem afterAlias_eq_none (shortcut : String) (specifier : List Char) :
    afterAlias? shortcut specifier = none ↔ ¬ Applies shortcut specifier := by
  constructor
  · rintro none ⟨rest, whole, ends⟩
    have some := (afterAlias_iff shortcut specifier _).mpr ⟨⟨rest, whole, ends⟩, rest, whole, rfl⟩
    rw [none] at some
    contradiction
  · intro apart
    cases found : afterAlias? shortcut specifier with
    | none => rfl
    | some below => exact absurd ((afterAlias_iff _ _ _).mp found).1 apart

theorem aliased_eq_none (specifier : List Char) (aliases : List (String × Path)) :
    aliased? specifier aliases = none ↔ ∀ entry ∈ aliases, ¬ Applies entry.1 specifier := by
  induction aliases with
  | nil => simp [aliased?]
  | cons entry others ih =>
      rw [aliased?, List.forall_mem_cons, ← ih, ← afterAlias_eq_none]
      cases afterAlias? entry.1 specifier with
      | none => simp
      | some below => cases below <;> simp

theorem aliased_iff (specifier : List Char) (aliases : List (String × Path)) (path : Path) :
    aliased? specifier aliases = some path ↔ ∃ front shortcut target back rest,
      aliases = front ++ (shortcut, target) :: back ∧
      (∀ entry ∈ front, ¬ Applies entry.1 specifier) ∧ Applies shortcut specifier ∧
      specifier = shortcut.toList ++ rest ∧ path = aliasPath target rest := by
  induction aliases with
  | nil => simp [aliased?]
  | cons entry others ih =>
      obtain ⟨first, place⟩ := entry
      cases after : afterAlias? first specifier with
      | none =>
          have apart := (afterAlias_eq_none first specifier).mp after
          rw [aliased?, after, ih]
          constructor
          · rintro ⟨front, shortcut, target, back, rest, rfl, none, applies⟩
            exact ⟨(first, place) :: front, shortcut, target, back, rest, rfl,
              List.forall_mem_cons.mpr ⟨apart, none⟩, applies⟩
          · rintro ⟨front, shortcut, target, back, rest, whole, none, applies, cut⟩
            cases front with
            | nil =>
                obtain ⟨same, -⟩ := List.cons.inj whole
                obtain ⟨rfl, rfl⟩ := Prod.mk.inj same
                exact absurd applies apart
            | cons entry front =>
                obtain ⟨-, rfl⟩ := List.cons.inj whole
                exact ⟨front, shortcut, target, back, rest, rfl,
                  (List.forall_mem_cons.mp none).2, applies, cut⟩
      | some below =>
          obtain ⟨applies, rest, cut, shown⟩ := (afterAlias_iff _ _ _).mp after
          have made : aliased? specifier ((first, place) :: others) =
              some (aliasPath place rest) := by
            unfold aliasPath
            rw [aliased?, after, shown]
            cases below <;> simp
          rw [made, Option.some.injEq]
          constructor
          · rintro rfl
            exact ⟨[], first, place, others, rest, rfl, nofun, applies, cut, rfl⟩
          · rintro ⟨front, shortcut, target, back, rest', whole, none, -, cut', rfl⟩
            cases front with
            | nil =>
                obtain ⟨same, -⟩ := List.cons.inj whole
                obtain ⟨rfl, rfl⟩ := Prod.mk.inj same
                rw [List.append_cancel_left (cut.symm.trans cut')]
            | cons entry front =>
                obtain ⟨rfl, -⟩ := List.cons.inj whole
                exact absurd applies (none _ List.mem_cons_self)

end Specifiers

section Candidates

variable (resolver : Resolver) (tree : FileTree) (importer : Path) (specifier : List Char)

theorem candidate_iff (base : Path) :
    resolver.candidate? importer specifier = some base ↔
      resolver.IsBase importer specifier base := by
  unfold candidate? IsBase
  rw [← aliased_eq_none, ← isRelative_iff]
  cases found : aliased? specifier resolver.aliases with
  | some path =>
      obtain ⟨front, shortcut, target, back, rest, whole, none, applies, cut, rfl⟩ :=
        (aliased_iff _ _ _).mp found
      constructor
      · rintro ⟨⟩
        exact .inl ⟨front, shortcut, target, back, rest, whole, none, applies, cut, rfl⟩
      · rintro (⟨front, shortcut, target, back, rest, whole, none, applies, cut, rfl⟩ | ⟨none, -⟩)
        · have other := (aliased_iff specifier resolver.aliases _).mpr
            ⟨front, shortcut, target, back, rest, whole, none, applies, cut, rfl⟩
          rw [found] at other
          rw [Option.some.inj other]
        · contradiction
  | none =>
      have apart := (aliased_eq_none specifier resolver.aliases).mp found
      have none : ¬ ∃ front shortcut target back rest,
          resolver.aliases = front ++ (shortcut, target) :: back ∧
          (∀ entry ∈ front, ¬ Applies entry.1 specifier) ∧ Applies shortcut specifier ∧
          specifier = shortcut.toList ++ rest ∧ base = (aliasPath target rest).normalize := by
        rintro ⟨front, shortcut, target, back, rest, whole, -, applies, -⟩
        exact apart (shortcut, target) (whole ▸ by simp) applies
      by_cases relative : isRelative specifier = true
      · rw [if_pos relative, Option.some.injEq]
        constructor
        · rintro rfl
          exact .inr ⟨rfl, relative, rfl⟩
        · rintro (fits | ⟨-, -, rfl⟩)
          · exact absurd fits none
          · rfl
      · rw [if_neg relative]
        constructor
        · nofun
        · rintro (fits | ⟨-, other, -⟩)
          · exact absurd fits none
          · exact absurd other relative

theorem candidate_eq_none : resolver.candidate? importer specifier = none ↔
    (∀ entry ∈ resolver.aliases, ¬ Applies entry.1 specifier) ∧ ¬ IsRelative specifier := by
  unfold candidate?
  rw [← aliased_eq_none, ← isRelative_iff]
  cases aliased? specifier resolver.aliases with
  | some path => simp
  | none => simp

theorem find_isFirstFile (paths : List Path) (found : Path) :
    paths.find? tree.isFile = some found ↔ IsFirstFile tree paths found := by
  rw [List.find?_eq_some_iff_append]
  unfold IsFirstFile
  simp only [Bool.not_eq_true']
  constructor
  · rintro ⟨file, front, back, whole, none⟩
    exact ⟨front, back, whole, file, none⟩
  · rintro ⟨front, back, whole, file, none⟩
    exact ⟨file, front, back, whole, none⟩

theorem resolve_of_clean {first second : String} (same : clean first = clean second) :
    resolver.resolve tree importer first = resolver.resolve tree importer second := by
  unfold resolve
  rw [same]

theorem candidate_directory (other : Path)
    (same : (resolver.directory other).components = (resolver.directory importer).components) :
    resolver.candidate? other specifier = resolver.candidate? importer specifier := by
  unfold candidate?
  split
  · rfl
  · split
    · rename_i relative
      have below := isRelative_head specifier relative
      rw [← String.toList_ofList (l := specifier)] at below
      exact congrArg some (Path.normalize_join_congr (Path.solid_congr same) _ below)
    · rfl

theorem candidate_alias (other : Path)
    (applies : ∃ entry ∈ resolver.aliases, Applies entry.1 specifier) :
    resolver.candidate? other specifier = resolver.candidate? importer specifier := by
  unfold candidate?
  cases found : aliased? specifier resolver.aliases with
  | some path => rfl
  | none =>
      obtain ⟨entry, member, fits⟩ := applies
      exact absurd fits ((aliased_eq_none _ _).mp found entry member)

end Candidates

section Resolved

variable {resolver : Resolver} {tree : FileTree} {importer : Path} {written : String}

theorem resolve_external_iff : resolver.resolve tree importer written = .external ↔
    resolver.candidate? importer (clean written) = none := by
  unfold resolve
  split
  · rename_i none
    simp [none]
  · rename_i base some
    rw [some]
    split <;> simp

theorem resolve_local_iff {base : Path} (some : resolver.candidate? importer (clean written) = some base)
    (found : Path) : resolver.resolve tree importer written = .local_ found ↔
      IsFirstFile tree (probes resolver.extensions base) found := by
  rw [← find_isFirstFile]
  unfold resolve
  rw [some]
  dsimp only
  cases (probes resolver.extensions base).find? tree.isFile <;> simp

theorem resolve_unresolved_iff {base : Path}
    (some : resolver.candidate? importer (clean written) = some base) (other : Path) :
    resolver.resolve tree importer written = .unresolved other ↔
      other = base ∧ ∀ path ∈ probes resolver.extensions base, tree.isFile path = false := by
  have none := List.find?_eq_none (l := probes resolver.extensions base) (p := tree.isFile)
  simp only [Bool.not_eq_true] at none
  rw [← none]
  unfold resolve
  rw [some]
  dsimp only
  cases (probes resolver.extensions base).find? tree.isFile <;> simp [eq_comm]

end Resolved

/-- What a specifier leads to. It is a package where no alias applies and it is not relative; else it
has a base, and leads to the first regular file among the base, the base with each extension and the
index modules of the base, or nowhere where none of them is one. Of the importing file only the
directory counts, and where an alias applies not even that; and for a specifier without blanks
around it, what is written behind a `?` does not count. -/
theorem resolve_exact (resolver : Resolver) (tree : FileTree) (importer : Path)
    (written : String) : ∃ specifier, Cleans written specifier ∧
    (resolver.resolve tree importer written = .external ↔
      (∀ entry ∈ resolver.aliases, ¬ Applies entry.1 specifier) ∧ ¬ IsRelative specifier) ∧
    (resolver.resolve tree importer written ≠ .external →
      ∃ base, resolver.IsBase importer specifier base) ∧
    (∀ base, resolver.IsBase importer specifier base →
      let paths := base :: resolver.extensions.map (fun extension => ⟨base.text ++ extension⟩) ++
        resolver.extensions.map fun extension => base.join ("index" ++ extension)
      (∀ found, resolver.resolve tree importer written = .local_ found ↔
        IsFirstFile tree paths found) ∧
      ∀ other, resolver.resolve tree importer written = .unresolved other ↔
        other = base ∧ ∀ path ∈ paths, tree.isFile path = false) ∧
    (∀ other, (resolver.directory other).components = (resolver.directory importer).components →
      resolver.resolve tree other written = resolver.resolve tree importer written) ∧
    ((∃ entry ∈ resolver.aliases, Applies entry.1 specifier) → ∀ other,
      resolver.resolve tree other written = resolver.resolve tree importer written) ∧
    (∀ query, Bare isBlank written.toList → resolver.resolve tree importer
      (written ++ "?" ++ query) = resolver.resolve tree importer written) ∧
    ∀ query, Bare isBlank specifier → resolver.resolve tree importer
      (String.ofList specifier ++ "?" ++ query) = resolver.resolve tree importer written := by
  refine ⟨clean written, clean_cleans written, ?_, ?_, ?_, ?_, ?_, ?_, ?_⟩
  · exact resolve_external_iff.trans (candidate_eq_none resolver importer (clean written))
  · intro inside
    rw [ne_eq, resolve_external_iff] at inside
    obtain ⟨base, some⟩ := Option.ne_none_iff_exists'.mp inside
    exact ⟨base, (candidate_iff resolver importer _ base).mp some⟩
  · intro base isBase
    have some := (candidate_iff resolver importer _ base).mpr isBase
    exact ⟨resolve_local_iff some, resolve_unresolved_iff some⟩
  · intro other same
    unfold resolve
    rw [candidate_directory resolver importer (clean written) other same]
  · intro applies other
    unfold resolve
    rw [candidate_alias resolver importer (clean written) other applies]
  · intro query bare
    exact resolve_of_clean resolver tree importer (clean_query written query bare)
  · intro query bare
    refine resolve_of_clean resolver tree importer ?_
    rw [clean_query _ query (by rwa [String.toList_ofList]), clean_clean written bare]

def queriedTree : FileTree :=
  FileTree.add {} [['s', 'r', 'c'], ['a', '.', 't', 's']] (.file [])

def queriedResolver : Resolver :=
  { root := ⟨"/"⟩, aliases := [("@/", ⟨"/src"⟩)], extensions := [".ts"] }

theorem resolve_exact_query : Bare isBlank "@/a".toList ∧
    (queriedResolver.directory ⟨"/src/c.ts"⟩).components =
      (queriedResolver.directory ⟨"/src/b.ts"⟩).components ∧
    queriedResolver.resolve queriedTree ⟨"/src/b.ts"⟩ ("@/a" ++ "?" ++ "raw") =
      .local_ ⟨"/src/a.ts"⟩ ∧
    queriedResolver.resolve queriedTree ⟨"/src/c.ts"⟩ "@/a" = .local_ ⟨"/src/a.ts"⟩ := by
  have found : queriedResolver.resolve queriedTree ⟨"/src/b.ts"⟩ "@/a" =
      .local_ ⟨"/src/a.ts"⟩ := by decide +kernel
  have bare : Bare isBlank "@/a".toList := by
    constructor
    · rintro first ⟨⟩
      decide
    · rintro last ⟨⟩
      decide
  have same : (queriedResolver.directory ⟨"/src/c.ts"⟩).components =
      (queriedResolver.directory ⟨"/src/b.ts"⟩).components := by decide +kernel
  obtain ⟨specifier, -, -, -, -, beside, -, query, -⟩ :=
    resolve_exact queriedResolver queriedTree ⟨"/src/b.ts"⟩ "@/a"
  exact ⟨bare, same, (query "raw" bare).trans found, (beside _ same).trans found⟩

end Resolver

end UiContract
