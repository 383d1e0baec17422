import UiContract.Proofs.ConfiguredPaths

/-!
How `relative_display` shows files. A file is shown by the names below the root, or by all of its names where
it lies outside; whatever else there is to a path is left out. So two files can be shown alike: a step up
that is still in a path is not seen, and a file outside the root looks like one below it. Among folded paths
it is the second way alone.
-/
namespace UiContract

open Reachability

namespace Path

section Shown

variable {root path first second : Path}

def shownNames (root path : Path) : List (List Char) :=
  (behind root path.components).filterMap Component.name?

theorem shownNames_plain {name : List Char} (member : name ∈ shownNames root path) :
    Plain (.normal name) := by
  obtain ⟨step, inside, reads⟩ := List.mem_filterMap.mp member
  have listed : step ∈ path.components := by
    unfold behind at inside
    split at inside
    · exact List.mem_of_mem_drop inside
    · exact inside
  have solid : step ∈ path.solid := by
    rw [solid_eq]
    exact List.mem_filter.mpr ⟨listed, by cases step <;> first | rfl | contradiction⟩
  obtain ⟨rest, plain, shape⟩ := path.solid_tidy
  cases step with
  | normal other =>
      obtain rfl := Option.some.inj reads
      rcases shape with same | same <;> rw [same] at solid
      · exact plain _ solid
      · exact plain _ ((List.mem_cons.mp solid).resolve_left nofun)
  | _ => contradiction

theorem relativeTo_eq_iff {name other : List Char}
    (last : first.components.getLast? = some (.normal name))
    (last' : second.components.getLast? = some (.normal other)) :
    first.relativeTo root = second.relativeTo root ↔ shownNames root first = shownNames root second := by
  rw [first.relativeTo_named last, second.relativeTo_named last']
  constructor
  · exact fun same => joinPieces_injective (fun _ => shownNames_plain) (fun _ => shownNames_plain)
      (String.ofList_injective same)
  · exact congrArg fun names => String.ofList (Text.joinPieces ['/'] names)

end Shown

theorem startsWith_iff {base path : Path} :
    path.startsWith base = true ↔ base.components <+: path.components :=
  List.isPrefixOf_iff_prefix

section Based

variable {root path : Path}

theorem root_mem_foldl (steps folded : List Component) (known : .root ∈ folded ∨ .root ∈ steps) :
    Component.root ∈ steps.foldl foldStep folded := by
  induction steps generalizing folded with
  | nil => exact known.resolve_right List.not_mem_nil
  | cons step rest ih =>
      refine ih _ ?_
      rcases known with above | inside
      · left
        cases step with
        | parent =>
            cases folded with
            | nil => contradiction
            | cons top others => cases top <;> simp_all [foldStep]
        | current => exact above
        | _ => exact List.mem_cons_of_mem _ above
      · rcases List.mem_cons.mp inside with rfl | later
        · exact .inl List.mem_cons_self
        · exact .inr later

theorem normalize_absolute (absolute : path.isAbsolute = true) : path.normalize.Based := by
  refine ⟨(root_mem_solid _).mp ?_, normalize_normalize path⟩
  rw [normalize_solid, fold, List.mem_reverse]
  exact root_mem_foldl _ _ (.inr ((root_mem_solid path).mpr absolute))

theorem join_isAbsolute (absolute : root.isAbsolute = true) (added : String) :
    (root.join added).isAbsolute = true := by
  obtain ⟨more, begins⟩ := List.head?_eq_some_iff.mp (beq_iff_eq.mp absolute)
  unfold join
  split
  · assumption
  · split <;> simp [isAbsolute, begins]

/-- A folded path that begins at the root of the file system has names alone behind it. -/
theorem Based.names (based : path.Based) :
    ∃ names : List (List Char), path.components = .root :: names.map .normal := by
  obtain ⟨steps, settled, same⟩ := (normal_iff path).mp based.normal
  have listed : path.components = steps := by
    rw [same, ofComponents_components settled.tidy]
  have above : Component.root ∈ steps := by
    rw [← listed]
    have solid := (root_mem_solid path).mpr based.absolute
    rw [solid_eq] at solid
    exact (List.mem_filter.mp solid).1
  obtain ⟨names, climbs, shape | shape⟩ := settled.left
  · have inside := List.mem_reverse.mpr above
    rw [shape] at inside
    simp at inside
  · refine ⟨names.reverse, ?_⟩
    rw [listed, ← List.reverse_reverse steps, shape, List.reverse_append, List.map_reverse]
    rfl

/-- A file outside the root with the names that another one has below the root. -/
structure Masks (root outside inside : Path) : Prop where
  apart : outside.startsWith root = false
  lies : inside.components = root.components ++ outside.components.tail

instance (root outside inside : Path) : Decidable (Masks root outside inside) :=
  decidable_of_iff (outside.startsWith root = false ∧
      inside.components = root.components ++ outside.components.tail)
    ⟨fun ⟨apart, lies⟩ => ⟨apart, lies⟩, fun ⟨apart, lies⟩ => ⟨apart, lies⟩⟩

theorem Based.shown_below (based : path.Based) (below : path.startsWith root = true)
    (rooted : root.components ≠ []) :
    path.components = root.components ++ (shownNames root path).map .normal := by
  obtain ⟨names, steps⟩ := based.names
  obtain ⟨rest, whole⟩ := startsWith_iff.mp below
  obtain ⟨first, others, start⟩ := List.exists_cons_of_ne_nil rooted
  have down : ∃ names : List (List Char), rest = names.map .normal := by
    rw [steps, start, List.cons_append] at whole
    obtain ⟨front, back, -, -, back'⟩ := List.map_eq_append_iff.mp (List.cons.inj whole).2.symm
    exact ⟨back, back'.symm⟩
  obtain ⟨shown, rfl⟩ := down
  have same : shownNames root path = shown := by
    rw [shownNames, behind, ← startsWith, below, if_pos rfl, ← whole, List.drop_left, filterMap_name]
  rw [same, whole]

theorem Based.shown_apart (based : path.Based) (apart : path.startsWith root = false) :
    path.components = .root :: (shownNames root path).map .normal := by
  obtain ⟨names, steps⟩ := based.names
  have same : shownNames root path = names := by
    rw [shownNames, behind, ← startsWith, apart, if_neg Bool.false_ne_true, steps,
      List.filterMap_cons_none rfl, filterMap_name]
  rw [same, steps]

theorem Masks.below {outside inside : Path} (masks : Masks root outside inside) :
    inside.startsWith root = true :=
  startsWith_iff.mpr (masks.lies ▸ List.prefix_append _ _)

/-- A folded path outside the root and one below it have the same names to be shown just when the one
masks the other. -/
theorem masks_iff {outside inside : Path} (rooted : root.components ≠ []) (based : outside.Based)
    (based' : inside.Based) (apart : outside.startsWith root = false)
    (below : inside.startsWith root = true) :
    Masks root outside inside ↔ shownNames root outside = shownNames root inside := by
  have outer := based.shown_apart apart
  have inner := based'.shown_below below rooted
  constructor
  · rintro ⟨-, lies⟩
    rw [inner, outer, List.tail_cons] at lies
    exact (List.map_injective_iff.mpr (fun _ _ => Component.normal.inj)
      (List.append_cancel_left lies)).symm
  · intro same
    refine ⟨apart, ?_⟩
    rw [inner, outer, List.tail_cons, same]

/-- Folded paths of which the same names are shown are the same, or one masks the other. -/
theorem shownNames_eq_iff {first second : Path} (rooted : root.components ≠ []) (based : first.Based)
    (based' : second.Based) : shownNames root first = shownNames root second ↔
      first.components = second.components ∨ Masks root first second ∨ Masks root second first := by
  have congr : first.components = second.components → shownNames root first = shownNames root second :=
    fun same => by rw [shownNames, same, shownNames]
  have apart : ∀ {outside inside : Path}, inside.startsWith root = false →
      ¬ Masks root outside inside :=
    fun outer masks => Bool.false_ne_true (outer.symm.trans masks.below)
  cases below : first.startsWith root <;> cases below' : second.startsWith root
  · refine ⟨fun same => .inl ?_, fun cases => congr (cases.resolve_right ?_)⟩
    · rw [based.shown_apart below, based'.shown_apart below', same]
    · exact not_or.mpr ⟨apart below', apart below⟩
  · rw [← masks_iff rooted based based' below below']
    refine ⟨fun masks => .inr (.inl masks), ?_⟩
    rintro (same | masks | masks)
    · rw [masks_iff rooted based based' below below']
      exact congr same
    · exact masks
    · exact absurd masks (apart below)
  · rw [eq_comm, ← masks_iff rooted based' based below' below]
    refine ⟨fun masks => .inr (.inr masks), ?_⟩
    rintro (same | masks | masks)
    · rw [masks_iff rooted based' based below' below]
      exact (congr same).symm
    · exact absurd masks (apart below')
    · exact masks
  · refine ⟨fun same => .inl ?_, fun cases => congr (cases.resolve_right ?_)⟩
    · rw [based.shown_below below rooted, based'.shown_below below' rooted, same]
    · rintro (masks | masks)
      · exact Bool.false_ne_true (masks.apart.symm.trans below)
      · exact Bool.false_ne_true (masks.apart.symm.trans below')

end Based

end Path

theorem length_sortedDistinct {Key : Type} [Ord Key] [Std.TransOrd Key] [Std.LawfulEqOrd Key]
    (members : List Key) : (sortedDistinct members).length = members.length ↔ members.Nodup := by
  have part : (sortedDistinct members).Subperm members :=
    (sortedDistinct_nodup members).subperm fun key => (mem_sortedDistinct members key).mp
  constructor
  · intro same
    exact (part.perm_of_length_le same.ge).nodup_iff.mp (sortedDistinct_nodup members)
  · intro distinct
    exact ((List.perm_ext_iff_of_nodup (sortedDistinct_nodup members) distinct).mpr
      (mem_sortedDistinct members)).length_eq

namespace ReachableSet

open UiContract.Path

variable {resolver : Resolver} {tree : FileTree} {sourceRoot : String} {entries : List String}
  {reached : ReachableSet} (built : build resolver tree sourceRoot entries = .ok reached)

include built

/-- A file of a set stands under its path, leads to a file of the tree and is shown as seen from the
root. -/
theorem build_file {file : SourceFile} (member : file ∈ reached.files.values) :
    file.path ∈ reached.files.keys ∧ tree.isFile file.path = true ∧
      file.relativePath = file.path.relativeTo resolver.root := by
  obtain ⟨known, read, file⟩ := build_value built member
  refine ⟨known, file, ?_⟩
  rw [read]
  simp only [Walk.visited, SourceFile.load]

theorem build_startsWith {base : Path}
    (source : (resolver.root.configured sourceRoot).startsWith base = true)
    (seeds : ∀ entry ∈ entries, (entryPath resolver entry).startsWith base = true)
    {path : Path} (member : path ∈ reached.files.keys) : path.startsWith base = true := by
  obtain ⟨held, listed, rfl⟩ := List.mem_map.mp member
  rw [startsWith_iff]
  rcases build_below built held.1 (SortedMap.contains_of_mem _ held listed) with
    ⟨entry, seed, same⟩ | below
  · rw [(build_shape built).2.1] at seed
    obtain ⟨written, configured, rfl⟩ := List.mem_map.mp seed
    rw [← (same_iff _ _).mp same]
    exact startsWith_iff.mp (seeds written configured)
  · exact (startsWith_iff.mp source).trans (startsWith_iff.mp below)

/-- From a folded root all files of a set have folded paths, where extensions make names. -/
theorem build_based (based : resolver.root.Based) (extensions : Attachable resolver.extensions)
    {path : Path} (member : path ∈ reached.files.keys) : path.Based := by
  have rooted : ∀ written, ((resolver.root.join written).normalize).startsWith ⟨"/"⟩ = true := by
    intro written
    obtain ⟨names, steps⟩ := (normalize_absolute (join_isAbsolute based.absolute written)).names
    rw [startsWith_iff, steps]
    exact List.prefix_append [Component.root] _
  refine ⟨(root_mem_solid path).mp ?_, build_normal extensions built path member⟩
  have below := build_startsWith built (rooted _) (fun entry _ => rooted entry) member
  rw [solid_eq]
  refine List.mem_filter.mpr ⟨(startsWith_iff.mp below).subset ?_, by decide⟩
  decide

/-- Two files of a set are shown alike just when the same names are shown of them. -/
theorem relativePath_eq_iff (nested : tree.Nested) {first second : SourceFile}
    (member : first ∈ reached.files.values) (member' : second ∈ reached.files.values) :
    first.relativePath = second.relativePath ↔
      shownNames resolver.root first.path = shownNames resolver.root second.path := by
  obtain ⟨-, file, same⟩ := build_file built member
  obtain ⟨-, file', same'⟩ := build_file built member'
  obtain ⟨name, last⟩ := tree.isFile_last nested first.path file
  obtain ⟨other, last'⟩ := tree.isFile_last nested second.path file'
  rw [same, same', relativeTo_eq_iff last last']

section Folded

variable (nested : tree.Nested) (based : resolver.root.Based)
  (extensions : Attachable resolver.extensions)

include nested based extensions

theorem relativePath_eq_iff_masks {first second : SourceFile} (member : first ∈ reached.files.values)
    (member' : second ∈ reached.files.values) :
    first.relativePath = second.relativePath ↔ first.path.components = second.path.components ∨
      Masks resolver.root first.path second.path ∨ Masks resolver.root second.path first.path := by
  obtain ⟨names, steps⟩ := based.names
  rw [relativePath_eq_iff built nested member member', shownNames_eq_iff (by simp [steps])
    (build_based built based extensions (build_file built member).1)
    (build_based built based extensions (build_file built member').1)]

theorem relativePaths_apart
    (source : (resolver.root.configured sourceRoot).startsWith resolver.root = true)
    (seeds : ∀ entry ∈ entries, (entryPath resolver entry).startsWith resolver.root = true) :
    reached.files.values.Pairwise fun first second => first.relativePath ≠ second.relativePath := by
  have inside : ∀ file ∈ reached.files.values, file.path.startsWith resolver.root = true :=
    fun file member => build_startsWith built source seeds (build_file built member).1
  refine (values_apart _ _ _ _ _ built).imp_of_mem fun {first second} member member' differ same => ?_
  rcases (relativePath_eq_iff_masks built nested based extensions member member').mp same with
    equal | masks | masks
  · exact differ equal
  · exact Bool.false_ne_true (masks.apart.symm.trans (inside first member))
  · exact Bool.false_ne_true (masks.apart.symm.trans (inside second member'))

end Folded

omit built in
theorem length_relativePaths (reached : ReachableSet) : reached.relativePaths.length = reached.size ↔
    reached.files.values.Pairwise fun first second => first.relativePath ≠ second.relativePath := by
  have size : reached.size = (reached.files.values.map SourceFile.relativePath).length := by
    rw [List.length_map, SortedMap.values, List.length_map]
    rfl
  rw [size, relativePaths, length_sortedDistinct, List.Nodup, List.pairwise_map]

/-- Files are shown alike just when the same names are shown of them, and no two are just when there are
as many texts as files. From a folded root on, and with extensions that make names, files are shown alike
only where one of them lies outside the root and the other one below has all its names, so that nothing
is shown twice where the entries and the source root lie below the root. -/
theorem relativePaths_exact (nested : tree.Nested) :
    (∀ first ∈ reached.files.values, ∀ second ∈ reached.files.values,
      first.relativePath = second.relativePath ↔
        shownNames resolver.root first.path = shownNames resolver.root second.path) ∧
    (reached.relativePaths.length = reached.size ↔ reached.files.values.Pairwise
      fun first second => first.relativePath ≠ second.relativePath) ∧
    (resolver.root.Based → Attachable resolver.extensions →
      (∀ first ∈ reached.files.values, ∀ second ∈ reached.files.values,
        first.relativePath = second.relativePath ↔ first.path.components = second.path.components ∨
          Masks resolver.root first.path second.path ∨ Masks resolver.root second.path first.path) ∧
      ((resolver.root.configured sourceRoot).startsWith resolver.root = true →
        (∀ entry ∈ entries, (entryPath resolver entry).startsWith resolver.root = true) →
        reached.relativePaths.length = reached.size)) := by
  refine ⟨fun first member second member' => relativePath_eq_iff built nested member member',
    reached.length_relativePaths, fun based extensions => ?_⟩
  refine ⟨fun first member second member' =>
    relativePath_eq_iff_masks built nested based extensions member member', fun source seeds => ?_⟩
  exact reached.length_relativePaths.mpr (relativePaths_apart built nested based extensions source seeds)

omit built

def besideTree : FileTree :=
  ((FileTree.add {} ["repo".toList, "a.ts".toList] (.file [])).add ["repo".toList, "b.ts".toList]
    (.file [])).add ["a.ts".toList] (.file [])

def besideResolver : Resolver :=
  { root := ⟨"/repo"⟩, aliases := [], extensions := [".ts"] }

theorem relativePaths_exact_beside : besideTree.Nested ∧ besideResolver.root.Based ∧
    Attachable besideResolver.extensions ∧
    (besideResolver.root.configured ".").startsWith besideResolver.root = true ∧
    (∀ entry ∈ ["a.ts", "b.ts"],
      (entryPath besideResolver entry).startsWith besideResolver.root = true) ∧
    ∃ reached, build besideResolver besideTree "." ["a.ts", "b.ts"] = .ok reached ∧
      reached.relativePaths.length = reached.size := by
  have nested : besideTree.Nested := FileTree.nested_of_entries besideTree (by decide)
  have based : besideResolver.root.Based := ⟨by decide, by decide⟩
  have extensions : Attachable besideResolver.extensions := by
    unfold Attachable
    decide
  have source : (besideResolver.root.configured ".").startsWith besideResolver.root = true := by
    decide
  have seeds : ∀ entry ∈ ["a.ts", "b.ts"],
      (entryPath besideResolver entry).startsWith besideResolver.root = true := by decide
  obtain ⟨reached, built⟩ := exists_of_isOk (build besideResolver besideTree "." ["a.ts", "b.ts"])
    (by decide)
  exact ⟨nested, based, extensions, source, seeds, reached, built,
    ((relativePaths_exact built nested).2.2 based extensions).2 source seeds⟩

def climbingTree : FileTree :=
  ((FileTree.add {} ["repo".toList, "src".toList, "main.ts".toList]
    (.file (Text.encode "import './x'".toList))).add
    ["repo".toList, "src".toList, "x.d".toList, "y.ts".toList] (.file [])).add
    ["repo".toList, "src".toList, "y.ts".toList] (.file [])

def climbingEntries : List String := ["src/main.ts", "src/x.d/y.ts"]

def climbingResolver : Resolver :=
  { root := ⟨"/repo"⟩, aliases := [], extensions := [".ts", ".d/../y.ts"] }

/-- A file outside the root is shown as one below it, and a file behind a step up as one without. -/
theorem shown_twice :
    (∃ reached, build besideResolver besideTree "." ["a.ts", "../a.ts"] = .ok reached ∧
      reached.size = 2 ∧ reached.relativePaths = ["a.ts"]) ∧
    ∃ reached, build climbingResolver climbingTree "src" climbingEntries = .ok reached ∧
      reached.size = 3 ∧ reached.relativePaths = ["src/main.ts", "src/x.d/y.ts"] := by
  constructor
  · obtain ⟨reached, built⟩ := exists_of_isOk
      (build besideResolver besideTree "." ["a.ts", "../a.ts"]) (by decide)
    have known : (build besideResolver besideTree "." ["a.ts", "../a.ts"]).toOption.map
        (fun reached => (reached.size, reached.relativePaths)) = some (2, ["a.ts"]) := by
      decide +kernel
    rw [built] at known
    exact ⟨reached, built, Prod.mk.inj (Option.some.inj known)⟩
  · obtain ⟨reached, built⟩ := exists_of_isOk
      (build climbingResolver climbingTree "src" climbingEntries) (by decide)
    have known : (build climbingResolver climbingTree "src" climbingEntries).toOption.map
        (fun reached => (reached.size, reached.relativePaths)) =
          some (3, ["src/main.ts", "src/x.d/y.ts"]) := by
      decide +kernel
    rw [built] at known
    exact ⟨reached, built, Prod.mk.inj (Option.some.inj known)⟩

end ReachableSet

end UiContract
