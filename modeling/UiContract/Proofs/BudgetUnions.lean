import UiContract.Proofs.BudgetSelection
import UiContract.Proofs.GlobLists

/-!
What `matched_files` selects for a budget with several globs. All globs are searched for together, and
whatever is found below the literal pieces of one may be matched by another: a list of globs selects what its
globs select alone, and the files that one of them leads to and another one matches.
-/
namespace UiContract.Checks

open FileTree PathGlobs

/-- A file is among some, however its path is written. -/
def Among (file : Selected) (files : List Selected) : Prop :=
  ∃ kept ∈ files, compare kept file = .eq

def Finds (tree : FileTree) (root : Path) (glob : String) (file : Selected) : Prop :=
  ∃ path, WalkFinds tree (literalPath root glob) path ∧ compare ⟨path.relativeTo root, path⟩ file = .eq

/-- A glob of one list leads to a file that a glob of another list matches. -/
def Crosses (tree : FileTree) (root : Path) (searched matching : List String) (file : Selected) : Prop :=
  (∃ glob ∈ searched, Finds tree root glob file) ∧ ∃ glob ∈ matching, Accepts glob file.relative

section Lists

variable [Engine] {tree : FileTree} {root : Path} {patterns others : List String}
  {globs globs' union : PathGlobs} {first second files : List Selected}

/-- A list of globs selects what the walk for one of them finds and one of them matches. -/
theorem among_budgetFiles (compiled : compile patterns = .ok globs)
    (selected : budgetFiles tree root patterns globs = .ok files) (file : Selected) :
    Among file files ↔ Crosses tree root patterns patterns file := by
  unfold Crosses
  rw [← accepts_compiled compiled]
  constructor
  · rintro ⟨kept, member, same⟩
    obtain ⟨accepted, glob, listed, path, found, rfl⟩ := found_of_selected selected member
    rw [← relative_of_compare same]
    exact ⟨⟨glob, listed, path, found, same⟩, accepted⟩
  · rintro ⟨⟨glob, listed, path, found, same⟩, accepted⟩
    rw [← relative_of_compare same] at accepted
    obtain ⟨kept, member, same'⟩ := selected_of_found selected listed found accepted
    exact ⟨kept, member, Std.TransCmp.eq_trans same' same⟩

theorem budgetFiles_congr (same : ∀ glob, glob ∈ patterns ↔ glob ∈ others)
    (compiled : compile patterns = .ok globs) (compiled' : compile others = .ok globs') :
    budgetFiles tree root others globs' = budgetFiles tree root patterns globs := by
  have accepts : ∀ path, globs'.accepts path = globs.accepts path := by
    intro path
    rw [Bool.eq_iff_iff, accepts_compiled compiled, accepts_compiled compiled']
    simp only [same]
  have bases : sortedDistinct (others.map globBase) = sortedDistinct (patterns.map globBase) := by
    refine sortedDistinct_congr _ _ fun base => ?_
    simp only [List.mem_map, same]
  have kept : Selected.ofPath? root globs' = Selected.ofPath? root globs := by
    funext path
    unfold Selected.ofPath?
    simp only [accepts]
  unfold budgetFiles searchStarts
  rw [bases, kept]

omit [Engine] in
theorem budgetFiles_append_ok_iff : (∃ files, budgetFiles tree root (patterns ++ others) union = .ok files) ↔
    (∃ first, budgetFiles tree root patterns globs = .ok first) ∧
      ∃ second, budgetFiles tree root others globs' = .ok second := by
  simp only [budgetFiles_ok_iff, List.forall_mem_append]

/-- Two lists select together what each of them selects, and what one of them leads to and the other one
matches. -/
theorem among_append (compiled : compile patterns = .ok globs) (compiled' : compile others = .ok globs')
    (joined : compile (patterns ++ others) = .ok union)
    (selected : budgetFiles tree root patterns globs = .ok first)
    (selected' : budgetFiles tree root others globs' = .ok second)
    (together : budgetFiles tree root (patterns ++ others) union = .ok files) (file : Selected) :
    Among file files ↔ Among file first ∨ Among file second ∨
      Crosses tree root patterns others file ∨ Crosses tree root others patterns file := by
  rw [among_budgetFiles compiled selected, among_budgetFiles compiled' selected',
    among_budgetFiles joined together]
  unfold Crosses
  have either : ∀ holds : String → Prop, (∃ glob ∈ patterns ++ others, holds glob) ↔
      (∃ glob ∈ patterns, holds glob) ∨ ∃ glob ∈ others, holds glob := by
    intro holds
    simp only [List.mem_append, or_and_right, exists_or]
  rw [either, either]
  constructor
  · rintro ⟨searched | searched, matched | matched⟩
    · exact .inl ⟨searched, matched⟩
    · exact .inr (.inr (.inl ⟨searched, matched⟩))
    · exact .inr (.inr (.inr ⟨searched, matched⟩))
    · exact .inr (.inl ⟨searched, matched⟩)
  · rintro (⟨searched, matched⟩ | ⟨searched, matched⟩ | ⟨searched, matched⟩ | ⟨searched, matched⟩)
    · exact ⟨.inl searched, .inl matched⟩
    · exact ⟨.inr searched, .inr matched⟩
    · exact ⟨.inl searched, .inr matched⟩
    · exact ⟨.inr searched, .inl matched⟩

end Lists

section Names

variable {tree : FileTree} (linkless : tree.Linkless) {root : Path} (written : root.text ≠ "")
  {glob : String}

theorem compare_selected_iff (first second : Selected) : compare first second = .eq ↔
    first.relative = second.relative ∧ first.path.components = second.path.components := by
  rw [← Path.compare_eq_iff]
  constructor
  · intro same
    exact ⟨relative_of_compare same, (Ordering.then_eq_eq.mp same).2⟩
  · rintro ⟨relative, path⟩
    refine Ordering.then_eq_eq.mpr ⟨?_, path⟩
    show compare first.relative second.relative = .eq
    rw [relative]
    exact Std.ReflCmp.compare_self

theorem filterMap_ofPiece (pieces : List (List Char)) (inside : ['.', '.'] ∉ pieces) :
    pieces.filterMap Component.ofPiece? =
      (pieces.filter fun piece => !(piece == [] || piece == ['.'])).map .normal := by
  induction pieces with
  | nil => rfl
  | cons piece rest ih =>
      obtain ⟨first, others⟩ := not_or.mp (mt List.mem_cons.mpr inside)
      have falls : ¬ (piece == ['.', '.']) = true := fun same => first (beq_iff_eq.mp same).symm
      rw [List.filterMap_cons, Component.ofPiece?, ih others]
      by_cases stays : (piece == [] || piece == ['.']) = true
      · rw [if_pos stays, List.filter_cons_of_neg (by rw [stays]; decide)]
      · rw [if_neg stays, if_neg falls, List.filter_cons_of_pos (by simpa using stays)]
        rfl

theorem literalPath_top_or (root : Path) (glob : String) : literalPath root glob = root ∨
    (literalPieces glob ≠ [] ∧ literalPath root glob = root.join (shown (literalPieces glob)) ∧
      (shown (literalPieces glob)).toList.head? ≠ some '/') := by
  by_cases blank : PathFilter.normalize glob = ""
  · have base : globBase glob = "" := by
      unfold globBase
      rw [blank]
      decide
    exact .inl (if_pos (by simpa using base))
  · exact (literalPath_cases root blank).imp_left And.right

include linkless written

/-- Where the literal pieces of a glob do not climb, the walk for it finds files below the root; those in
skipped directories lie below pieces that name these. -/
theorem names_of_found (inside : ['.', '.'] ∉ literalPieces glob) (path : Path)
    (found : WalkFinds tree (literalPath root glob) path) : ∃ names, HasFile tree root names ∧
      path.components = root.components ++ names.map .normal ∧
      ∀ name ∈ names.dropLast, name ∈ skippedDirectories → name ∈ literalPieces glob := by
  obtain ⟨final, names, bytes, located, held, entered, rfl⟩ := found.spelled linkless
  have below : ∀ name ∈ names, Path.Plain (.normal name) := fun name member =>
    linkless.names held name (List.mem_append_right final member)
  rcases literalPath_top_or root glob with top | ⟨some, same, relative⟩
  · rw [top] at located ⊢
    exact ⟨names, ⟨final, bytes, located, held⟩, Path.descend_components written below,
      fun name member skipped => absurd skipped (entered name member)⟩
  · rw [same] at located ⊢
    obtain ⟨-, -, place, above, follows⟩ :=
      (locate_join_iff linkless root written _ relative _).mp located
    have steps := pieces_shown_literalPieces some
    have solid : Path.solidOf (shown (literalPieces glob)).toList =
        ((literalPieces glob).filter fun piece => !(piece == [] || piece == ['.'])).map .normal := by
      rw [Path.solidOf, if_neg relative, List.nil_append, steps, filterMap_ofPiece _ inside]
    have listed : (literalPieces glob).filter (fun piece => !(piece == [] || piece == ['.'])) ⊆
        literalPieces glob := fun piece member => List.mem_of_mem_filter member
    generalize (literalPieces glob).filter (fun piece => !(piece == [] || piece == ['.'])) = spelled
      at solid listed
    -- What is followed are the pieces that are names, and they lead down.
    have direct := tree.follow_drops 0 (drops_filter _) place final follows
    rw [filter_stepsOf, solid, List.filterMap_map] at direct
    have down : spelled.filterMap (Component.step? ∘ Component.normal) = spelled.map Step.down := by
      rw [← List.filterMap_eq_map]
      rfl
    rw [down] at direct
    obtain ⟨rfl, -⟩ := follow_names linkless spelled place final direct
    rw [List.append_assoc] at held
    refine ⟨spelled ++ names, ⟨place, bytes, above, held⟩, ?_, ?_⟩
    · have pieces : (Text.pieces (· == '/') (shown (literalPieces glob)).toList).filterMap
          Component.ofPiece? = spelled.map .normal := by
        rw [← solid, Path.solidOf, if_neg relative, List.nil_append]
      rw [Path.descend_components (Path.join_ne_empty written _ relative) below,
        Path.join_components written _ relative, pieces, List.map_append, List.append_assoc]
    · intro name member skipped
      rw [List.dropLast_append] at member
      split at member
      · exact listed (List.dropLast_subset _ member)
      · rcases List.mem_append.mp member with front | back
        · exact listed front
        · exact absurd skipped (entered name back)

/-- A file that a glob matches is found, if the walk for the glob can start and ends and no directory below
the literal pieces is skipped on the way. -/
theorem finds_of_accepts {names : List Name} (named : ∀ name ∈ names, PlainName name)
    (held : HasFile tree root names) {file : Selected}
    (lies : file.path.components = root.components ++ names.map .normal)
    (shows : file.relative = shown names) (accepted : Accepts glob file.relative)
    (listable : Listable tree (literalPath root glob))
    (short : Text.byteSize (literalPath root glob).text.toList < pathLimit)
    (entered : ∀ name ∈ (names.drop (literalPieces glob).length).dropLast, name ∉ skippedDirectories) :
    Finds tree root glob file := by
  rw [shows] at accepted
  obtain ⟨path, found, lies'⟩ :=
    found_of_matches written linkless names named held accepted entered listable short
  have shows' := relativeTo_names lies'
  refine ⟨path, found, (compare_selected_iff _ _).mpr ?_⟩
  dsimp only
  rw [shows', shows, lies', lies]
  exact ⟨rfl, rfl⟩

/-- What a list selects lies below the root, if no glob climbs in its literal pieces. -/
theorem names_of_among [Engine] {patterns : List String} {globs : PathGlobs}
    (compiled : compile patterns = .ok globs)
    (inside : ∀ glob ∈ patterns, ['.', '.'] ∉ literalPieces glob) {files : List Selected}
    (selected : budgetFiles tree root patterns globs = .ok files) {file : Selected}
    (member : Among file files) :
    ∃ search ∈ patterns, Finds tree root search file ∧ ∃ names, HasFile tree root names ∧
      file.path.components = root.components ++ names.map .normal ∧ file.relative = shown names ∧
      ∀ name ∈ names.dropLast, name ∈ skippedDirectories → name ∈ literalPieces search := by
  obtain ⟨⟨search, listed, path, found, same⟩, -⟩ := (among_budgetFiles compiled selected file).mp member
  obtain ⟨shows, lies⟩ := (compare_selected_iff _ _).mp same
  dsimp only at shows lies
  obtain ⟨names, held, below, spelled⟩ := names_of_found linkless written (inside search listed) path found
  have shows' := relativeTo_names below
  rw [shows] at shows'
  rw [lies] at below
  exact ⟨search, listed, ⟨path, found, same⟩, names, held, below, shows', spelled⟩

end Names

section Unions

/-- The search for one glob enters a skipped directory of a path that lies below the literal pieces of
another glob, since it names that directory. -/
def Uncovers (search glob : String) (names : List Name) : Prop :=
  ∃ name ∈ skippedDirectories, name ∈ literalPieces search ∧
    name ∈ (names.drop (literalPieces glob).length).dropLast

/-- A glob of one list names a skipped directory that keeps a glob of another list from a file. -/
def Exposes (searched matching : List String) (file : Selected) (names : List Name) : Prop :=
  ∃ search ∈ searched, ∃ glob ∈ matching, Accepts glob file.relative ∧ Uncovers search glob names

variable [Engine] {tree : FileTree} {root : Path} {patterns others : List String}
  {globs globs' union : PathGlobs} {first second files : List Selected}

/-- What only two lists together select lies in a directory that is skipped for the glob that matches it,
and that a glob of the other list names. -/
theorem uncovers_of_among (linkless : tree.Linkless) (written : root.text ≠ "")
    (compiled : compile patterns = .ok globs) (compiled' : compile others = .ok globs')
    (joined : compile (patterns ++ others) = .ok union)
    (selected : budgetFiles tree root patterns globs = .ok first)
    (selected' : budgetFiles tree root others globs' = .ok second)
    (together : budgetFiles tree root (patterns ++ others) union = .ok files)
    (short : ∀ glob ∈ patterns ++ others, Text.byteSize (literalPath root glob).text.toList < pathLimit)
    {file : Selected} (among : Among file files) {search : String} (listed : search ∈ patterns ++ others)
    (finds : Finds tree root search file) {names : List Name} (named : ∀ name ∈ names, PlainName name)
    (held : HasFile tree root names)
    (lies : file.path.components = root.components ++ names.map .normal)
    (shows : file.relative = shown names)
    (spelled : ∀ name ∈ names.dropLast, name ∈ skippedDirectories → name ∈ literalPieces search) :
    Among file first ∨ Among file second ∨
      Exposes patterns others file names ∨ Exposes others patterns file names := by
  obtain ⟨-, glob, member, accepted⟩ := (among_budgetFiles joined together file).mp among
  rw [among_budgetFiles compiled selected, among_budgetFiles compiled' selected']
  by_cases entered : ∀ name ∈ (names.drop (literalPieces glob).length).dropLast, name ∉ skippedDirectories
  · -- The glob that matches finds the file by itself.
    have listable := budgetFiles_ok_iff.mp ⟨files, together⟩ glob member
    have alone := finds_of_accepts linkless written named held lies shows accepted listable
      (short glob member) entered
    rcases List.mem_append.mp member with first | second
    · exact .inl ⟨⟨glob, first, alone⟩, glob, first, accepted⟩
    · exact .inr (.inl ⟨⟨glob, second, alone⟩, glob, second, accepted⟩)
  · simp only [not_forall, not_not] at entered
    obtain ⟨name, below, skipped⟩ := entered
    have inside : name ∈ names.dropLast := by
      rw [List.dropLast_drop_eq_drop_dropLast] at below
      exact List.mem_of_mem_drop below
    have uncovers : Uncovers search glob names := ⟨name, skipped, spelled name inside skipped, below⟩
    rcases List.mem_append.mp listed with first | second <;>
      rcases List.mem_append.mp member with first' | second'
    · exact .inl ⟨⟨search, first, finds⟩, glob, first', accepted⟩
    · exact .inr (.inr (.inl ⟨search, first, glob, second', accepted, uncovers⟩))
    · exact .inr (.inr (.inr ⟨search, second, glob, first', accepted, uncovers⟩))
    · exact .inr (.inl ⟨⟨search, second, finds⟩, glob, second', accepted⟩)

theorem compile_append_or (compiled : compile patterns = .ok globs)
    (compiled' : compile others = .ok globs') : (∃ union, compile (patterns ++ others) = .ok union) ∨
      ∃ reason, compile (patterns ++ others) = .error (.set reason) := by
  obtain ⟨read, each, -⟩ := compile_ok.mp compiled
  obtain ⟨read', each', -⟩ := compile_ok.mp compiled'
  have built : compile (patterns ++ others) = build ((read ++ read').filterMap id) := by
    unfold compile
    rw [(mapM_ok_iff _ _ _).mpr (List.rel_append each each')]
    rfl
  rw [built]
  cases fault : build ((read ++ read').filterMap id) with
  | ok union => exact .inl ⟨union, rfl⟩
  | error refusal => exact .inr ((build_error fault).imp fun reason same => congrArg Except.error same)

/-- What a list selects stays selected when globs are added, and neither order nor repetition matters; the
walks for two lists end where the walks for each of them do. If no glob climbs in its literal pieces, what
comes in beside the files of both lists is what a glob of one list leads to and a glob of the other one
matches: it lies below the root and, where names can be spelled in globs and the literal pieces are short
enough to lead somewhere, in a directory that is skipped for the glob that matches it and that the glob of
the other list names. -/
theorem budgetFiles_append (tree : FileTree) (root : Path) (compiled : compile patterns = .ok globs)
    (compiled' : compile others = .ok globs') :
    ((∃ union, compile (patterns ++ others) = .ok union) ∨
      ∃ reason, compile (patterns ++ others) = .error (.set reason)) ∧
    ∀ union, compile (patterns ++ others) = .ok union →
      ((∃ files, budgetFiles tree root (patterns ++ others) union = .ok files) ↔
        (∃ first, budgetFiles tree root patterns globs = .ok first) ∧
          ∃ second, budgetFiles tree root others globs' = .ok second) ∧
      (∀ listed again, (∀ glob, glob ∈ patterns ++ others ↔ glob ∈ listed) →
        compile listed = .ok again →
          budgetFiles tree root listed again = budgetFiles tree root (patterns ++ others) union) ∧
      ∀ first second files, budgetFiles tree root patterns globs = .ok first →
        budgetFiles tree root others globs' = .ok second →
        budgetFiles tree root (patterns ++ others) union = .ok files →
          (∀ file, Among file first ∨ Among file second → Among file files) ∧
          ((∀ glob ∈ patterns ++ others, ['.', '.'] ∉ literalPieces glob) → ∀ file,
            (Among file files ↔ Among file first ∨ Among file second ∨
              Crosses tree root patterns others file ∨ Crosses tree root others patterns file) ∧
            (tree.Linkless → root.text ≠ "" → Among file files →
              ∃ names, HasFile tree root names ∧ file.relative = shown names ∧
                file.path.components = root.components ++ names.map .normal ∧
                ((∀ name ∈ names, PlainName name) →
                  (∀ glob ∈ patterns ++ others,
                    Text.byteSize (literalPath root glob).text.toList < pathLimit) →
                  Among file first ∨ Among file second ∨
                    Exposes patterns others file names ∨ Exposes others patterns file names))) := by
  refine ⟨compile_append_or compiled compiled', fun union joined =>
    ⟨budgetFiles_append_ok_iff, fun listed again same compiled'' => budgetFiles_congr same joined compiled'',
      fun first second files selected selected' together => ?_⟩⟩
  have members := among_append compiled compiled' joined selected selected' together
  refine ⟨?_, fun inside file => ⟨members file, fun linkless written among => ?_⟩⟩
  · rintro file (alone | alone)
    · exact (members file).mpr (.inl alone)
    · exact (members file).mpr (.inr (.inl alone))
  · obtain ⟨search, listed, finds, names, held, lies, shows, spelled⟩ :=
      names_of_among linkless written joined inside together among
    exact ⟨names, held, shows, lies, fun named short =>
      uncovers_of_among linkless written compiled compiled' joined selected selected' together short among
        listed finds named held lies shows spelled⟩

end Unions

section Bundles

attribute [local instance] Engine.rough

def bundledTree : FileTree where
  entries := .ofList [(["node_modules".toList], .directory),
    (["node_modules".toList, "pkg".toList], .directory),
    (["node_modules".toList, "pkg".toList, "a.js".toList], .file [65]),
    (["node_modules".toList, "pkg".toList, "b.css".toList], .file [65]), (["c.js".toList], .file [65])]

theorem bundledTree_plain : bundledTree.Plain where
  named := by decide
  rooted := by decide
  unlinked := by decide

def globsOf (patterns : List String) : PathGlobs :=
  (compile patterns).toOption.getD ⟨[]⟩

def bundled (patterns : List String) : List Selected :=
  (budgetFiles bundledTree ⟨"/"⟩ patterns (globsOf patterns)).toOption.getD []

def scripts : List String := ["**/*.js"]

def sheets : List String := ["node_modules/pkg/*.css"]

def packaged : Selected := ⟨"node_modules/pkg/a.js", ⟨"/node_modules/pkg/a.js"⟩⟩

def beside : Selected := ⟨"c.js", ⟨"/c.js"⟩⟩

instance (file : Selected) (files : List Selected) : Decidable (Among file files) :=
  inferInstanceAs (Decidable (∃ kept ∈ files, compare kept file = .eq))

theorem packaged_selected : Among packaged (bundled (scripts ++ sheets)) ∧
    ¬ Among packaged (bundled scripts) ∧ ¬ Among packaged (bundled sheets) := by
  refine ⟨?_, ?_, ?_⟩ <;> decide

theorem globs_readable : compile scripts = .ok (globsOf scripts) ∧
    compile sheets = .ok (globsOf sheets) ∧
    compile (scripts ++ sheets) = .ok (globsOf (scripts ++ sheets)) :=
  ⟨ok_getD_of_isOk (by decide) _, ok_getD_of_isOk (by decide) _, ok_getD_of_isOk (by decide) _⟩

theorem bundled_walked : budgetFiles bundledTree ⟨"/"⟩ scripts (globsOf scripts) = .ok (bundled scripts) ∧
    budgetFiles bundledTree ⟨"/"⟩ sheets (globsOf sheets) = .ok (bundled sheets) ∧
    budgetFiles bundledTree ⟨"/"⟩ (scripts ++ sheets) (globsOf (scripts ++ sheets)) =
      .ok (bundled (scripts ++ sheets)) :=
  ⟨ok_getD_of_isOk (by decide) _, ok_getD_of_isOk (by decide) _, ok_getD_of_isOk (by decide) _⟩

/-- Where the style sheets of a package are asked for besides all scripts, the script of the package is
selected too, which neither glob selects alone. -/
theorem budgetFiles_shared : (compile scripts = .ok (globsOf scripts) ∧
      budgetFiles bundledTree ⟨"/"⟩ scripts (globsOf scripts) = .ok (bundled scripts)) ∧
    (compile sheets = .ok (globsOf sheets) ∧
      budgetFiles bundledTree ⟨"/"⟩ sheets (globsOf sheets) = .ok (bundled sheets)) ∧
    (compile (scripts ++ sheets) = .ok (globsOf (scripts ++ sheets)) ∧
      budgetFiles bundledTree ⟨"/"⟩ (scripts ++ sheets) (globsOf (scripts ++ sheets)) =
        .ok (bundled (scripts ++ sheets))) ∧
    ¬ ∀ file, Among file (bundled (scripts ++ sheets)) ↔
      Among file (bundled scripts) ∨ Among file (bundled sheets) := by
  obtain ⟨first, second, both⟩ := globs_readable
  obtain ⟨walked, walked', together⟩ := bundled_walked
  refine ⟨⟨first, walked⟩, ⟨second, walked'⟩, ⟨both, together⟩, fun union => ?_⟩
  obtain ⟨selected, neither⟩ := packaged_selected
  exact ((union packaged).mp selected).elim neither.1 neither.2

theorem budgetFiles_append_bundled : compile scripts = .ok (globsOf scripts) ∧
    compile sheets = .ok (globsOf sheets) ∧ Among beside (bundled (scripts ++ sheets)) ∧
    ∃ names, HasFile bundledTree ⟨"/"⟩ names ∧ packaged.relative = shown names ∧
      (Exposes scripts sheets packaged names ∨ Exposes sheets scripts packaged names) := by
  obtain ⟨first, second, both⟩ := globs_readable
  obtain ⟨walked, walked', together⟩ := bundled_walked
  obtain ⟨-, -, joined⟩ := (budgetFiles_append bundledTree ⟨"/"⟩ first second).2 _ both
  obtain ⟨kept, more⟩ := joined _ _ _ walked walked' together
  obtain ⟨selected, alone, alone'⟩ := packaged_selected
  obtain ⟨-, below⟩ := more (by decide) packaged
  obtain ⟨names, held, shows, -, exposed⟩ := below bundledTree_plain.linkless (by decide) selected
  have named : ∀ name ∈ names, PlainName name := by
    obtain ⟨place, bytes, -, file⟩ := held
    exact fun name member => bundledTree_plain.names file name (List.mem_append_right place member)
  refine ⟨first, second, kept beside (.inl (by decide)), names, held, shows, ?_⟩
  rcases exposed named (by decide) with known | known | known
  · exact absurd known alone
  · exact absurd known alone'
  · exact known

end Bundles

end UiContract.Checks
