import UiContract.Proofs.DirectoryWalks
import UiContract.Proofs.GlobLists
import UiContract.Proofs.LiteralGlobs

/-!
Which files `matched_files` selects for a budget with one glob. Only what lies below the literal pieces in
front of a glob is searched, and whatever the glob matches lies there: so the search misses nothing but the
files of directories that it does not enter.
-/
namespace UiContract.Checks

open FileTree

section Beginnings

/-- The pieces of a glob in front of the first one that stands for more than itself. -/
def literalPieces (glob : String) : List (List Char) :=
  (Text.pieces (· == '/') (PathFilter.normalize glob).toList).takeWhile fun piece => !isWild piece

theorem globBase_eq (glob : String) : globBase glob = shown (literalPieces glob) := rfl

theorem not_isWildcard {piece : List Char} (tame : isWild piece = false) :
    ∀ character ∈ piece, ¬ Glob.IsWildcard character := by
  have wild : "*?[\x7b".toList = ['*', '?', '[', '\x7b'] := rfl
  unfold isWild at tame
  rw [wild] at tame
  intro character member wildcard
  have apart := List.any_eq_false.mp tame character member
  rcases wildcard with rfl | rfl | rfl | rfl <;> simp at apart

theorem pieces_literalPieces (glob : String) : ∃ behind,
    Text.pieces (· == '/') (PathFilter.normalize glob).toList = literalPieces glob ++ behind :=
  ⟨_, List.takeWhile_append_dropWhile.symm⟩

theorem literalPieces_tame (glob : String) : ∀ piece ∈ literalPieces glob, isWild piece = false := by
  intro piece member
  simpa using List.mem_takeWhile_imp member

theorem literalPieces_separated (glob : String) :
    ∀ piece ∈ literalPieces glob, ∀ character ∈ piece, (character == '/') = false := by
  intro piece member
  exact Text.pieces_separated _ _ piece ((List.takeWhile_prefix _).subset member)

theorem pieces_shown_literalPieces {glob : String} (some : literalPieces glob ≠ []) :
    Text.pieces (· == '/') (shown (literalPieces glob)).toList = literalPieces glob := by
  rw [shown, String.toList_ofList]
  exact Text.pieces_joinPieces _ '/' rfl _ some (literalPieces_separated glob)

theorem shown_literalPieces_tame (glob : String) :
    ∀ character ∈ (shown (literalPieces glob)).toList, ¬ Glob.IsWildcard character := by
  intro character member
  rw [shown, String.toList_ofList] at member
  rcases Text.mem_joinPieces '/' _ character member with rfl | ⟨piece, listed, inside⟩
  · simp [Glob.IsWildcard]
  · exact not_isWildcard (literalPieces_tame glob piece listed) character inside

theorem literalPieces_prefix {glob : String} {names : List Name} (named : ∀ name ∈ names, PlainName name)
    (accepted : PathGlobs.Accepts glob (shown names)) : literalPieces glob <+: names := by
  obtain ⟨pattern, read, fits⟩ := accepted
  obtain ⟨written, parsed⟩ := (PathGlobs.compileOne_some glob pattern).mp read
  rw [Glob.Pattern.accepts_iff] at fits
  rw [normalize_shown named] at fits
  by_cases none : literalPieces glob = []
  · rw [none]
    exact List.nil_prefix
  obtain ⟨behind, pieces⟩ := pieces_literalPieces glob
  have again := pieces_shown_literalPieces none
  have tame := shown_literalPieces_tame glob
  have whole := Text.joinPieces_pieces '/' (PathFilter.normalize glob).toList
  rw [pieces] at whole
  cases behind with
  | nil =>
      -- Without wildcards the glob matches its own text alone.
      have spelled : (PathFilter.normalize glob).toList = (shown (literalPieces glob)).toList := by
        rw [← whole, List.append_nil, shown, String.toList_ofList]
      rw [spelled] at parsed
      have same := Text.encode_injective ((Glob.parse_plain _ tame parsed _).mp fits)
      have some : names ≠ [] := by
        rintro rfl
        exact written (String.toList_inj.mp (spelled.trans same.symm))
      rw [← again, ← same, pieces_shown named some]
  | cons next more =>
      -- Else a slash stands behind the literal pieces, and what is matched begins with both.
      rw [Text.joinPieces_append '/' _ _ none (List.cons_ne_nil _ _)] at whole
      have spelled : (PathFilter.normalize glob).toList = (shown (literalPieces glob)).toList ++
          '/' :: Text.joinPieces ['/'] (next :: more) := by
        rw [← whole, shown, String.toList_ofList]
      rw [spelled] at parsed
      obtain ⟨rest, bytes⟩ := Glob.parse_front _ _ tame parsed fits
      obtain ⟨back, begun, -⟩ := Text.encode_prefix _ _ _ bytes
      rw [List.append_assoc] at begun
      have some : names ≠ [] := by
        rintro rfl
        simp [shown, Text.joinPieces] at begun
      have cut := congrArg (Text.pieces (· == '/')) begun
      rw [List.singleton_append, Text.pieces_append _ _ _ '/' rfl, pieces_shown named some,
        again] at cut
      exact ⟨_, cut.symm⟩

end Beginnings

section Order

variable {first second : Selected}

theorem relative_of_compare (same : compare first second = .eq) : first.relative = second.relative :=
  Std.LawfulEqOrd.eq_of_compare (Ordering.then_eq_eq.mp same).1

theorem relative_lt_or (before : compare first second = .lt) :
    first.relative < second.relative ∨
      first.relative = second.relative ∧ compare first.path second.path = .lt := by
  rcases Ordering.then_eq_lt.mp before with ahead | ⟨level, ahead⟩
  · exact .inl (compareOfLessAndEq_eq_lt.mp ahead)
  · exact .inr ⟨Std.LawfulEqOrd.eq_of_compare level, ahead⟩

end Order

section Selections

def literalPath (root : Path) (glob : String) : Path :=
  if globBase glob == "" then root else root.join (globBase glob)

/-- Names lead to a file from where the root leads. -/
def HasFile (tree : FileTree) (root : Path) (names : List Name) : Prop :=
  ∃ place bytes, tree.locate root = .ok place ∧ tree.entry? (place ++ names) = some (.file bytes)

/-- The names of a file that a glob matches, with no directory among them that is skipped below the
literal pieces of the glob. -/
structure Matches (tree : FileTree) (root : Path) (glob : String) (globs : PathGlobs)
    (names : List Name) : Prop where
  file : HasFile tree root names
  accepted : globs.accepts (shown names) = true
  entered : ∀ name ∈ (names.drop (literalPieces glob).length).dropLast, name ∉ skippedDirectories

theorem relativeTo_names {path root : Path} {names : List Name}
    (below : path.components = root.components ++ names.map .normal) :
    path.relativeTo root = shown names := by
  by_cases some : names = []
  · subst some
    exact path.relativeTo_same root (by simpa using below)
  · rw [path.relativeTo_below root _ below (by rwa [filterMap_name]), filterMap_name]
    rfl

/-- A search starts at the root or, where there are literal pieces, below it. -/
theorem literalPath_cases (root : Path) {glob : String} (written : PathFilter.normalize glob ≠ "") :
    (literalPieces glob = [] ∧ literalPath root glob = root) ∨
      (literalPieces glob ≠ [] ∧ literalPath root glob = root.join (shown (literalPieces glob)) ∧
        (shown (literalPieces glob)).toList.head? ≠ some '/') := by
  unfold literalPath
  rw [globBase_eq]
  by_cases none : literalPieces glob = []
  · rw [none]
    exact .inl ⟨rfl, rfl⟩
  obtain ⟨behind, pieces⟩ := pieces_literalPieces glob
  obtain ⟨first, rest, begins⟩ := List.exists_cons_of_ne_nil none
  have first_ne_nil : first ≠ [] := by
    rintro rfl
    rw [begins] at pieces
    rcases Text.head_of_pieces '/' _ _ pieces with empty | slash
    · exact written (String.toList_eq_nil_iff.mp empty)
    · exact PathFilter.normalize_relative glob slash
  obtain ⟨back, whole⟩ : ∃ back, (PathFilter.normalize glob).toList = first ++ back := by
    rw [← Text.joinPieces_pieces '/' (PathFilter.normalize glob).toList, pieces, begins]
    exact Text.joinPieces_cons '/' first _
  obtain ⟨back', whole'⟩ : ∃ back, (shown (literalPieces glob)).toList = first ++ back := by
    rw [shown, String.toList_ofList, begins]
    exact Text.joinPieces_cons '/' first _
  refine .inr ⟨none, if_neg ?_, ?_⟩
  · rw [beq_iff_eq, ← String.toList_eq_nil_iff, whole']
    simp [first_ne_nil]
  · have relative := PathFilter.normalize_relative glob
    rw [whole, List.head?_append_of_ne_nil _ first_ne_nil] at relative
    rwa [whole', List.head?_append_of_ne_nil _ first_ne_nil]

section Lists

variable {tree : FileTree} {root : Path} {patterns : List String} {globs : PathGlobs}
  {files : List Selected}

theorem mem_searchStarts (start : Path) : start ∈ searchStarts root patterns ↔
    ∃ glob ∈ patterns, start = literalPath root glob := by
  unfold searchStarts literalPath
  simp only [List.mem_map, mem_sortedDistinct]
  constructor
  · rintro ⟨_, ⟨glob, listed, rfl⟩, same⟩
    exact ⟨glob, listed, same.symm⟩
  · rintro ⟨glob, listed, same⟩
    exact ⟨globBase glob, ⟨glob, listed, rfl⟩, same.symm⟩

theorem budgetFiles_ok_iff : (∃ files, budgetFiles tree root patterns globs = .ok files) ↔
    ∀ glob ∈ patterns, Listable tree (literalPath root glob) := by
  have searches : (∃ found, (searchStarts root patterns).mapM (filesBelow tree) = .ok found) ↔
      ∀ glob ∈ patterns, Listable tree (literalPath root glob) := by
    simp only [mapM_ok_exists_iff, filesBelow_ok_iff, mem_searchStarts]
    exact ⟨fun all glob listed => all _ ⟨glob, listed, rfl⟩,
      fun all _ ⟨glob, listed, same⟩ => same ▸ all glob listed⟩
  rw [← searches]
  unfold budgetFiles
  cases (searchStarts root patterns).mapM (filesBelow tree) with
  | error error => exact iff_of_false (fun ⟨_, failed⟩ => nomatch failed) fun ⟨_, failed⟩ => nomatch failed
  | ok found => exact iff_of_true ⟨_, rfl⟩ ⟨found, rfl⟩

theorem budgetFiles_found (selected : budgetFiles tree root patterns globs = .ok files) :
    ∃ found : List Path, files = sortedDistinct (found.filterMap (Selected.ofPath? root globs)) ∧
      ∀ path, path ∈ found ↔ ∃ glob ∈ patterns, WalkFinds tree (literalPath root glob) path := by
  unfold budgetFiles at selected
  cases searched : (searchStarts root patterns).mapM (filesBelow tree) with
  | error error =>
      rw [searched] at selected
      contradiction
  | ok found =>
      rw [searched] at selected
      refine ⟨found.flatten, (Except.ok.inj selected).symm, fun path => ?_⟩
      have each := (mapM_ok_iff _ _ _).mp searched
      rw [List.mem_flatten]
      constructor
      · rintro ⟨paths, listed, member⟩
        obtain ⟨start, begins, walked⟩ := exists_of_forall₂ each.flip listed
        obtain ⟨glob, given, same⟩ := (mem_searchStarts start).mp begins
        rw [same] at walked
        exact ⟨glob, given, paths, walked, member⟩
      · rintro ⟨glob, given, paths, walked, member⟩
        obtain ⟨others, listed, walked'⟩ :=
          exists_of_forall₂ each ((mem_searchStarts _).mpr ⟨glob, given, rfl⟩)
        exact ⟨others, listed, Except.ok.inj (walked.symm.trans walked') ▸ member⟩

theorem ofPath_eq_some_iff (path : Path) (file : Selected) :
    Selected.ofPath? root globs path = some file ↔
      globs.accepts file.relative = true ∧ file = ⟨path.relativeTo root, path⟩ := by
  unfold Selected.ofPath?
  dsimp only
  rw [Option.ite_none_right_eq_some, Option.some.injEq]
  constructor
  · rintro ⟨accepted, rfl⟩
    exact ⟨accepted, rfl⟩
  · rintro ⟨accepted, rfl⟩
    exact ⟨accepted, rfl⟩

/-- What is selected was found by the walk for a glob, and some glob accepts it. -/
theorem found_of_selected (selected : budgetFiles tree root patterns globs = .ok files)
    {file : Selected} (member : file ∈ files) : globs.accepts file.relative = true ∧
      ∃ glob ∈ patterns, ∃ path, WalkFinds tree (literalPath root glob) path ∧
        file = ⟨path.relativeTo root, path⟩ := by
  obtain ⟨found, rfl, walks⟩ := budgetFiles_found selected
  obtain ⟨path, listed, kept⟩ := List.mem_filterMap.mp (mem_of_mem_sortedDistinct _ file member)
  obtain ⟨accepted, same⟩ := (ofPath_eq_some_iff path file).mp kept
  obtain ⟨glob, given, walked⟩ := (walks path).mp listed
  exact ⟨accepted, glob, given, path, walked, same⟩

/-- What the walk for a glob finds and some glob accepts is selected, however its path is written. -/
theorem selected_of_found (selected : budgetFiles tree root patterns globs = .ok files) {glob : String}
    (given : glob ∈ patterns) {path : Path} (walked : WalkFinds tree (literalPath root glob) path)
    (accepted : globs.accepts (path.relativeTo root) = true) :
    ∃ file ∈ files, compare file ⟨path.relativeTo root, path⟩ = .eq := by
  obtain ⟨found, rfl, walks⟩ := budgetFiles_found selected
  obtain ⟨kept, member, same⟩ := exists_mem_sortedDistinct _ (⟨path.relativeTo root, path⟩ : Selected)
    (List.mem_filterMap.mpr
      ⟨path, (walks path).mpr ⟨glob, given, walked⟩, (ofPath_eq_some_iff path _).mpr ⟨accepted, rfl⟩⟩)
  exact ⟨kept, member, Std.OrientedCmp.eq_symm same⟩

theorem budgetFiles_sorted (selected : budgetFiles tree root patterns globs = .ok files) :
    files.Pairwise fun earlier later => compare earlier later = .lt := by
  obtain ⟨found, rfl, -⟩ := budgetFiles_found selected
  exact sortedDistinct_ascending _

end Lists

section Single

variable [Engine] {tree : FileTree} (plain : tree.Plain) {root : Path} (written : root.text ≠ "")
  {glob : String} {globs : PathGlobs} (compiled : PathGlobs.compile [glob] = .ok globs)
  {files : List Selected}

include plain written compiled

omit written in
/-- The literal pieces in front of a glob that matches a file which they lead to are all names. -/
theorem literalPieces_named (spelled : literalPieces glob ≠ [])
    (relative : (shown (literalPieces glob)).toList.head? ≠ some '/') {place final names : List Name}
    (follows : tree.follow 0 place (stepsOf (shown (literalPieces glob)).toList) = .ok final)
    {bytes : List UInt8} (held : tree.entry? (final ++ names) = some (.file bytes)) {path : Path}
    (lies : path.components = root.components ++
      ((literalPieces glob).filterMap Component.ofPiece? ++ names.map .normal))
    (accepted : globs.accepts (path.relativeTo root) = true) :
    ∀ name ∈ literalPieces glob, PlainName name := by
  have inner : Path.solidOf (shown (literalPieces glob)).toList =
      (literalPieces glob).filterMap Component.ofPiece? := by
    rw [Path.solidOf, if_neg relative, List.nil_append, pieces_shown_literalPieces spelled]
  -- The pieces that are steps down are names of entries, and if no name follows there is such a piece.
  have inside := names_of_follow plain follows
  have occupied : names = [] →
      (Path.solidOf (shown (literalPieces glob)).toList).filterMap Component.name? ≠ [] := by
    rintro rfl
    rw [List.append_nil] at held
    exact names_ne_nil plain follows held
  rw [inner] at inside occupied
  have below : ∀ name ∈ names, PlainName name := fun name member =>
    plain.names held name (List.mem_append_right final member)
  have read : ((literalPieces glob).filterMap Component.ofPiece? ++
      names.map Component.normal).filterMap Component.name? =
        ((literalPieces glob).filterMap Component.ofPiece?).filterMap Component.name? ++ names := by
    rw [List.filterMap_append, filterMap_name]
  rw [path.relativeTo_below root _ lies, read] at accepted
  · have named := List.forall_mem_append.mpr ⟨inside, below⟩
    have begins := literalPieces_prefix named ((PathGlobs.accepts_single compiled _).mp accepted)
    exact fun name member => named name (begins.subset member)
  · rw [read]
    intro none
    obtain ⟨flat, last⟩ := List.append_eq_nil_iff.mp none
    exact occupied last flat

theorem matches_of_found (path : Path) (found : WalkFinds tree (literalPath root glob) path)
    (accepted : globs.accepts (path.relativeTo root) = true) :
    ∃ names, Matches tree root glob globs names ∧
      path.components = root.components ++ names.map .normal := by
  obtain ⟨final, names, bytes, located, held, entered, rfl⟩ := found.spelled plain.linkless
  have below : ∀ name ∈ names, PlainName name := fun name member =>
    plain.names held name (List.mem_append_right final member)
  obtain ⟨glob_ne_empty, -⟩ := (PathGlobs.accepts_iff compiled _).mp accepted
  rcases literalPath_cases root glob_ne_empty with ⟨none, same⟩ | ⟨some, same, relative⟩
  · rw [same] at located accepted ⊢
    have lies := Path.descend_components written fun name member => (below name member).plain
    rw [relativeTo_names lies] at accepted
    refine ⟨names, ⟨⟨final, bytes, located, held⟩, accepted, ?_⟩, lies⟩
    rwa [none]
  · rw [same] at located accepted ⊢
    obtain ⟨-, -, place, above, follows⟩ := (locate_join_iff plain.linkless root written _ relative _).mp located
    have lies := Path.descend_components (Path.join_ne_empty written _ relative) fun name member =>
      (below name member).plain
    rw [Path.join_components written _ relative, pieces_shown_literalPieces some,
      List.append_assoc] at lies
    have literal := literalPieces_named plain compiled some relative follows held lies accepted
    rw [filterMap_names literal, ← List.map_append] at lies
    rw [relativeTo_names lies] at accepted
    rw [stepsOf_shown literal some] at follows
    obtain ⟨rfl, -⟩ := follow_names plain.linkless _ place final follows
    rw [List.append_assoc] at held
    refine ⟨literalPieces glob ++ names, ⟨⟨place, bytes, above, held⟩, accepted, ?_⟩, lies⟩
    rw [List.drop_left]
    exact entered

omit [Engine] plain compiled in
theorem found_of_matches (linkless : tree.Linkless) (names : List Name)
    (named : ∀ name ∈ names, PlainName name) (held : HasFile tree root names)
    (accepted : PathGlobs.Accepts glob (shown names))
    (entered : ∀ name ∈ (names.drop (literalPieces glob).length).dropLast, name ∉ skippedDirectories)
    (listable : Listable tree (literalPath root glob))
    (short : Text.byteSize (literalPath root glob).text.toList < pathLimit) :
    ∃ path, WalkFinds tree (literalPath root glob) path ∧
      path.components = root.components ++ names.map .normal := by
  obtain ⟨place, bytes, located, held⟩ := held
  obtain ⟨pattern, read, -⟩ := id accepted
  have glob_ne_empty := ((PathGlobs.compileOne_some glob pattern).mp read).1
  obtain ⟨rest, rfl⟩ := literalPieces_prefix named accepted
  obtain ⟨literal, below⟩ := List.forall_mem_append.mp named
  have below : ∀ name ∈ rest, Path.Plain (.normal name) := fun name member => (below name member).plain
  have walks := walkFinds_iff linkless listable
  rw [List.drop_left] at entered
  rcases literalPath_cases root glob_ne_empty with ⟨none, same⟩ | ⟨some, same, relative⟩
  · rw [same] at walks ⊢
    rw [none, List.nil_append] at held ⊢
    exact ⟨_, (walks _).mpr ⟨place, rest, bytes, located, held, entered, rfl⟩,
      Path.descend_components written below⟩
  · -- The names begin with the literal pieces, which lead down to where the walk starts.
    rw [← List.append_assoc] at held
    have follows : tree.follow 0 place (stepsOf (shown (literalPieces glob)).toList) =
        .ok (place ++ literalPieces glob) := by
      rw [stepsOf_shown literal some]
      exact follow_of_names linkless _ place (fun name member => (literal name member).short)
        (.inr (linkless.isSome_above held))
    have leads := (locate_join_iff linkless root written _ relative _).mpr
      ⟨same ▸ short, clean_shown literal, place, located, follows⟩
    have start_ne_empty := Path.join_ne_empty written _ relative
    refine ⟨_, (walks _).mpr ⟨_, rest, bytes, same ▸ leads, held, entered, rfl⟩, ?_⟩
    rw [same, Path.descend_components start_ne_empty below, Path.join_components written _ relative,
      pieces_shown literal some, filterMap_names literal, List.map_append, List.append_assoc]

omit [Engine] written compiled in
theorem Matches.named {names : List Name} (file : Matches tree root glob globs names) :
    ∀ name ∈ names, PlainName name := by
  obtain ⟨place, bytes, -, held⟩ := file.file
  exact fun name member => plain.names held name (List.mem_append_right place member)

variable (selected : budgetFiles tree root [glob] globs = .ok files)

include selected

theorem matches_of_selected (file : Selected) (member : file ∈ files) :
    ∃ names, Matches tree root glob globs names ∧ file.relative = shown names ∧
      file.path.components = root.components ++ names.map .normal := by
  obtain ⟨accepted, glob', given, path, found, rfl⟩ := found_of_selected selected member
  rw [List.mem_singleton.mp given] at found
  dsimp only at accepted ⊢
  obtain ⟨names, files, lies⟩ := matches_of_found plain written compiled path found accepted
  exact ⟨names, files, relativeTo_names lies, lies⟩

theorem selected_of_matches (names : List Name) (file : Matches tree root glob globs names)
    (short : Text.byteSize (literalPath root glob).text.toList < pathLimit) :
    ∃ file ∈ files, file.relative = shown names := by
  have given := List.mem_singleton_self glob
  obtain ⟨path, found, lies⟩ := found_of_matches written plain.linkless names (file.named plain)
    file.file ((PathGlobs.accepts_single compiled _).mp file.accepted) file.entered
    (budgetFiles_ok_iff.mp ⟨files, selected⟩ glob given) short
  have relative := relativeTo_names lies
  obtain ⟨kept, member, same⟩ := selected_of_found selected given found (relative ▸ file.accepted)
  exact ⟨kept, member, (relative_of_compare same).trans relative⟩

theorem budgetFiles_ascending : files.Pairwise fun earlier later =>
    earlier.relative < later.relative := by
  refine (budgetFiles_sorted selected).imp_of_mem fun {earlier later} member member' before => ?_
  rcases relative_lt_or before with ahead | ⟨level, ahead⟩
  · exact ahead
  · -- Files that are shown alike have the same names, so their paths are the same.
    obtain ⟨names, file, shows, lies⟩ := matches_of_selected plain written compiled selected earlier member
    obtain ⟨others, file', shows', lies'⟩ :=
      matches_of_selected plain written compiled selected later member'
    rw [shows, shows'] at level
    obtain rfl := shown_injective (file.named plain) (file'.named plain) level
    rw [(Path.compare_eq_iff _ _).mpr (lies.trans lies'.symm)] at ahead
    exact nomatch ahead

omit selected in
/-- A budget with one glob selects the files that the glob matches, but for those with a directory below
the literal pieces of the glob that is skipped, if the path of these pieces is short enough to lead
somewhere. Each of the files is selected once, in the order of the paths as they are shown. The walk ends
just where the path of each directory that it enters is short enough. -/
theorem budgetFiles_exact :
    ((∃ files, budgetFiles tree root [glob] globs = .ok files) ↔
      ∀ names, Enters tree (literalPath root glob) names →
        Text.byteSize ((literalPath root glob).descend names).text.toList < pathLimit) ∧
    ∀ files, budgetFiles tree root [glob] globs = .ok files →
      (∀ file ∈ files, ∃ names, Matches tree root glob globs names ∧
        file.relative = shown names ∧ file.path.components = root.components ++ names.map .normal) ∧
      (Text.byteSize (literalPath root glob).text.toList < pathLimit →
        ∀ names, Matches tree root glob globs names → ∃ file ∈ files, file.relative = shown names) ∧
      files.Pairwise fun earlier later => earlier.relative < later.relative := by
  constructor
  · rw [← listable_iff_short plain, budgetFiles_ok_iff, List.forall_mem_singleton]
  · exact fun files selected => ⟨matches_of_selected plain written compiled selected,
      fun short names file => selected_of_matches plain written compiled selected names file short,
      budgetFiles_ascending plain written compiled selected⟩

end Single

end Selections

section Limits

theorem budgetFiles_of_long (tree : FileTree) (root : Path) (glob : String) (globs : PathGlobs)
    (long : pathLimit ≤ Text.byteSize (literalPath root glob).text.toList) :
    budgetFiles tree root [glob] globs = .ok [] := by
  have nowhere : ∀ place, tree.locate (literalPath root glob) ≠ .ok place := fun place located =>
    absurd (tree.locate_ok _ place located).1 (Nat.not_lt_of_le long)
  have none : filesBelow tree (literalPath root glob) = .ok [] := filesBelow_of_unlocated nowhere
  have start : searchStarts root [glob] = [literalPath root glob] := rfl
  unfold budgetFiles
  rw [start, List.mapM_cons, none]
  rfl

section Examples

attribute [local instance] Engine.rough

def styledTree : FileTree where
  entries := .ofList [(["dist".toList], .directory), (["dist".toList, "a.css".toList], .file [65]),
    (["dist".toList, "node_modules".toList], .directory),
    (["dist".toList, "node_modules".toList, "b.css".toList], .file [65]),
    (["dist".toList, "pages".toList], .directory)]
  workingDirectory := some []

def styleGlobs : PathGlobs :=
  (PathGlobs.compile ["dist/**/*.css"]).toOption.getD ⟨[]⟩

theorem styledTree_plain : styledTree.Plain where
  named := by decide
  rooted := by decide
  unlinked := by decide

theorem styleGlobs_compiled : PathGlobs.compile ["dist/**/*.css"] = .ok styleGlobs :=
  ok_getD_of_isOk (by decide) _

theorem matches_styles {root : Path} (top : styledTree.locate root = .ok []) :
    Matches styledTree root "dist/**/*.css" styleGlobs ["dist".toList, "a.css".toList] where
  file := ⟨[], [65], top, by decide⟩
  accepted := by decide
  entered := by decide

theorem budgetFiles_exact_styles : styledTree.Plain ∧ (Path.mk "/").text ≠ "" ∧
    PathGlobs.compile ["dist/**/*.css"] = .ok styleGlobs ∧
    Text.byteSize (literalPath ⟨"/"⟩ "dist/**/*.css").text.toList < pathLimit ∧
    ∃ files, budgetFiles styledTree ⟨"/"⟩ ["dist/**/*.css"] styleGlobs = .ok files ∧
      (∃ file ∈ files, file.relative = shown ["dist".toList, "a.css".toList]) ∧
      ∀ file ∈ files, file.relative ≠ shown ["dist".toList, "node_modules".toList, "b.css".toList] := by
  have written : (Path.mk "/").text ≠ "" := by decide
  have short : Text.byteSize (literalPath ⟨"/"⟩ "dist/**/*.css").text.toList < pathLimit := by
    decide
  have top : styledTree.locate ⟨"/"⟩ = .ok [] := by rfl
  have walked : (budgetFiles styledTree ⟨"/"⟩ ["dist/**/*.css"] styleGlobs).isOk = true := by decide
  cases selected : budgetFiles styledTree ⟨"/"⟩ ["dist/**/*.css"] styleGlobs with
  | error error =>
      rw [selected] at walked
      contradiction
  | ok files =>
      obtain ⟨sound, complete, -⟩ :=
        (budgetFiles_exact styledTree_plain written styleGlobs_compiled).2 files selected
      refine ⟨styledTree_plain, written, styleGlobs_compiled, short, files, rfl,
        complete short _ (matches_styles top), ?_⟩
      intro file member
      obtain ⟨names, found, shows, -⟩ := sound file member
      rw [shows]
      intro same
      have named : ∀ name ∈ ["dist".toList, "node_modules".toList, "b.css".toList], PlainName name := by
        decide
      obtain rfl := shown_injective (found.named styledTree_plain) named same
      exact absurd found.entered (by decide)

def slashes (count : Nat) : Path := ⟨String.ofList (List.replicate count '/')⟩

theorem byteSize_slashes (count : Nat) : Text.byteSize (slashes count).text.toList = count := by
  rw [slashes, String.toList_ofList]
  induction count with
  | zero => rfl
  | succ count ih =>
      rw [List.replicate_succ']
      exact (Text.byteSize_append _ _).trans (congrArg (· + 1) ih)

theorem locate_slashes {tree : FileTree} (linkless : tree.Linkless) {count : Nat} (some : 0 < count)
    (short : count < pathLimit) : tree.locate (slashes count) = .ok [] := by
  have stays : ∀ count, tree.follow 0 [] (stepsOf (List.replicate count '/')) = .ok [] := by
    intro count
    induction count with
    | zero => rfl
    | succ count ih =>
        rw [List.replicate_succ]
        exact (follow_cons_iff linkless [] [] .stay _).mpr ⟨rfl, [], rfl, ih⟩
  obtain ⟨more, rfl⟩ := Nat.exists_eq_add_one.mpr some
  refine (locate_iff (slashes (more + 1)) []).mpr ⟨?_, ?_, by rwa [byteSize_slashes], [], ?_, ?_⟩
  · rw [slashes, ← String.toList_eq_nil_iff.ne, String.toList_ofList]
    exact nofun
  · rw [slashes, String.toList_ofList]
    exact fun member => absurd (List.eq_of_mem_replicate member) (by decide)
  · rw [slashes, Path.isAbsolute, String.toList_ofList, List.replicate_succ]
    rfl
  · rw [slashes, String.toList_ofList]
    exact (follow_unlinked linkless _ _ _ _).mpr (stays (more + 1))

def distPath (count : Nat) : Path := (slashes count).join "dist"

theorem literalPath_dist (count : Nat) {glob : String} (base : globBase glob = "dist") :
    literalPath (slashes count) glob = distPath count := by
  rw [literalPath, base, if_neg (by decide), distPath]

theorem byteSize_dist (count : Nat) (some : 0 < count) :
    Text.byteSize (distPath count).text.toList = count + 4 := by
  obtain ⟨more, rfl⟩ := Nat.exists_eq_add_one.mpr some
  have last : (slashes (more + 1)).text.toList.getLast? = .some '/' := by
    rw [slashes, String.toList_ofList, List.replicate_succ', List.getLast?_concat]
  rw [distPath, Path.join, if_neg (by decide), last, if_pos (by simp), String.toList_append,
    Text.byteSize_append, byteSize_slashes]
  rfl

theorem dist_written (count : Nat) (some : 0 < count) : (distPath count).text ≠ "" := by
  intro empty
  have size := byteSize_dist count some
  rw [empty] at size
  exact absurd size (by simp [Text.byteSize])

theorem locate_dist {tree : FileTree} (count : Nat) (linkless : tree.Linkless)
    (held : tree.entry? ["dist".toList] = some .directory) (some : 0 < count)
    (short : count + 4 < pathLimit) : tree.locate (distPath count) = .ok ["dist".toList] := by
  have top := locate_slashes linkless some (Nat.lt_of_le_of_lt (Nat.le_add_right count 4) short)
  exact locate_entry linkless _ top "dist".toList (by decide) held (byteSize_dist count some ▸ short)

/-- A directory in the one where the walk starts cannot be listed where its path is too long. -/
theorem unlistable_dist {tree : FileTree} (name : Name) (count : Nat) (plain : tree.Plain)
    (named : PlainName name) (kept : name ∉ skippedDirectories)
    (held : tree.entry? ["dist".toList] = some .directory)
    (inside : tree.entry? ["dist".toList, name] = some .directory) (some : 0 < count)
    (short : count + 4 < pathLimit) (long : pathLimit ≤ count + 4 + Text.byteSize name) :
    ¬ Listable tree (distPath count) := by
  intro listable
  have enters : Enters tree (distPath count) [name] :=
    ⟨⟨_, locate_dist count plain.linkless held some short, held, inside⟩, by simpa using kept⟩
  have below := (listable_iff_short plain _).mp listable _ enters
  have longer := Path.byteSize_join (dist_written count some) (String.ofList name) named.plain.relative
  rw [byteSize_dist count some, String.toList_ofList] at longer
  rw [Path.descend, List.foldl_cons, List.foldl_nil] at below
  omega

/-- Below a root that is written too long nothing is found, though there is a file; a root that is shorter
by a byte makes the walk fail, since a directory beside the file has too long a path; and the empty path
leads nowhere, though what is joined to it may lead to a file. -/
theorem budgetFiles_inexact :
    (styledTree.Plain ∧ PathGlobs.compile ["dist/**/*.css"] = .ok styleGlobs ∧
      Matches styledTree (slashes 4092) "dist/**/*.css" styleGlobs ["dist".toList, "a.css".toList] ∧
      budgetFiles styledTree (slashes 4092) ["dist/**/*.css"] styleGlobs = .ok []) ∧
    (Matches styledTree (slashes 4091) "dist/**/*.css" styleGlobs ["dist".toList, "a.css".toList] ∧
      ∀ files, budgetFiles styledTree (slashes 4091) ["dist/**/*.css"] styleGlobs ≠ .ok files) ∧
    (∀ names, ¬ Matches styledTree ⟨""⟩ "dist/**/*.css" styleGlobs names) ∧
      ∃ files, budgetFiles styledTree ⟨""⟩ ["dist/**/*.css"] styleGlobs = .ok files ∧ files ≠ [] := by
  have start : ∀ count, literalPath (slashes count) "dist/**/*.css" = distPath count := fun count =>
    literalPath_dist count (by decide)
  refine ⟨⟨styledTree_plain, styleGlobs_compiled, ?_, ?_⟩, ⟨?_, fun files selected => ?_⟩, ?_, ?_⟩
  · exact matches_styles (locate_slashes styledTree_plain.linkless (by decide) (by decide))
  · exact budgetFiles_of_long _ _ _ _ (by rw [start, byteSize_dist 4092 (by decide)]; decide)
  · exact matches_styles (locate_slashes styledTree_plain.linkless (by decide) (by decide))
  · have listable := budgetFiles_ok_iff.mp ⟨files, selected⟩ _ (List.mem_singleton_self _)
    rw [start] at listable
    exact unlistable_dist "pages".toList 4091 styledTree_plain (by decide) (by decide) (by decide)
      (by decide) (by decide) (by decide) (by decide) listable
  · intro names found
    obtain ⟨place, bytes, located, -⟩ := found.file
    exact ((locate_iff _ _).mp located).1 rfl
  · have computed : (budgetFiles styledTree ⟨""⟩ ["dist/**/*.css"] styleGlobs).toOption.any
        (fun files => !files.isEmpty) = true := by decide
    cases selected : budgetFiles styledTree ⟨""⟩ ["dist/**/*.css"] styleGlobs with
    | error error =>
        rw [selected] at computed
        contradiction
    | ok files =>
        rw [selected] at computed
        refine ⟨files, rfl, ?_⟩
        rintro rfl
        contradiction

end Examples

end Limits

end UiContract.Checks
