import UiContract.Language
import UiContract.Proofs.Places

/-!
What is seen of a path from another one. Texts are cut at the front and at the end, and that takes off
as many components; so two writings of a path have the same parent, and where the last component is
a name they are shown alike.
-/
namespace UiContract.Path

def inner (characters : List Char) : List Component :=
  (Text.pieces (· == '/') characters).filterMap Component.ofPiece?

theorem inner_slash (rest : List Char) : inner ('/' :: rest) = inner rest := by
  unfold inner
  rw [Text.pieces, if_pos (beq_self_eq_true '/')]
  rfl

theorem inner_dot (rest : List Char) : inner ('.' :: '/' :: rest) = inner rest := by
  unfold inner
  rw [show '.' :: '/' :: rest = ['.'] ++ '/' :: rest from rfl,
    Text.pieces_append (· == '/') ['.'] rest '/' rfl]
  rfl

/-- A text has a `.` in front where it is nothing else, or where a slash follows. -/
theorem leading_eq_nil (characters : List Char) (lone : characters ≠ ['.'])
    (dot : ∀ rest, characters ≠ '.' :: '/' :: rest) : leading characters = [] := by
  refine if_neg fun first => ?_
  match characters with
  | [] => contradiction
  | [character] =>
      by_cases slash : character = '/'
      · subst slash
        contradiction
      · simp [Text.pieces, slash] at first
        exact lone (by rw [first])
  | character :: next :: rest =>
      by_cases slash : character = '/'
      · simp [Text.pieces, slash] at first
      · by_cases slash' : next = '/'
        · simp [Text.pieces, slash, slash'] at first
          exact dot rest (by rw [first, slash'])
        · cases tail : Text.pieces (· == '/') rest with
          | nil => simp [Text.pieces, slash, slash', tail] at first
          | cons piece others => simp [Text.pieces, slash, slash', tail] at first

theorem componentsOf_trimFront (characters : List Char) :
    componentsOf (trimFront characters) = inner characters := by
  induction characters using trimFront.induct with
  | case1 rest ih => rw [trimFront, ih, inner_slash]
  | case2 => rfl
  | case3 rest ih => rw [trimFront, ih, inner_dot]
  | case4 rest slash lone dot =>
      have bare : rest.head? ≠ some '/' := by
        intro first
        obtain ⟨tail, rfl⟩ := List.head?_eq_some_iff.mp first
        exact slash tail rfl
      rw [trimFront, componentsOf_eq, leading_eq_nil rest lone dot, solidOf, if_neg bare] <;>
        first | rfl | assumption

theorem componentsOf_ne_nil (characters : List Char) (written : characters ≠ []) :
    componentsOf characters ≠ [] := by
  unfold componentsOf
  split
  · rename_i none
    exact absurd none (Text.pieces_ne_nil _ _)
  · rw [if_neg (by simpa using written)]
    exact List.cons_ne_nil _ _
  · rename_i first rest proper started
    by_cases dot : first = ['.']
    · rw [dot]
      exact List.cons_ne_nil _ _
    · cases read : Component.ofPiece? first with
      | none => exact absurd ((ofPiece_eq_none first).mp read) (not_or.mpr ⟨proper, dot⟩)
      | some component => simp [read]

theorem componentsOf_cutFront (characters : List Char) :
    componentsOf (cutFront characters) = (componentsOf characters).tail := by
  unfold cutFront
  split
  · rename_i rest
    rw [componentsOf_trimFront, componentsOf_absolute _ rfl]
    exact (inner_slash rest).symm
  · rename_i slash
    rw [componentsOf_trimFront]
    obtain ⟨name, whole, ⟨rfl, rest⟩ | ⟨back, rfl, rest⟩⟩ := name_or_slash characters
    · have single := componentsOf_name_length characters whole
      have none : (componentsOf characters).tail = [] := by
        rw [← List.length_eq_zero_iff, List.length_tail]
        omega
      rw [rest, none]
      rfl
    · have written : name ≠ [] := by
        rintro rfl
        exact slash back rfl
      obtain ⟨component, single⟩ : ∃ component, componentsOf name = [component] :=
        List.length_eq_one_iff.mp (Nat.le_antisymm (componentsOf_name_length name whole)
          (List.length_pos_of_ne_nil (componentsOf_ne_nil name written)))
      rw [rest, inner_slash, componentsOf_eq, leading_append, solidOf_append,
        solidOf_slash name written, ← List.append_assoc, ← componentsOf_eq, single]
      rfl

theorem componentsOf_cutFronts (count : Nat) (characters : List Char) :
    componentsOf (cutFronts count characters) = (componentsOf characters).drop count := by
  induction count generalizing characters with
  | zero => rfl
  | succ count ih => rw [cutFronts, ih, componentsOf_cutFront, List.drop_tail]

variable (path base : Path)

/-- What a path names below another one are the components behind those of the other one. -/
theorem below_components (rest : Path) (found : path.below? base = some rest) :
    rest.components = path.components.drop base.components.length := by
  unfold below? at found
  split at found
  · rw [← Option.some.inj found, components, String.toList_ofList, componentsOf_trimReversed,
      List.reverse_reverse, componentsOf_cutFronts]
    rfl
  · contradiction

theorem parent_components (directory : Path) (found : path.parent? = some directory) :
    directory.components = path.components.dropLast := by
  unfold parent? at found
  split at found
  · contradiction
  · contradiction
  · rename_i final inner last
    rw [← Option.some.inj found, components, String.toList_ofList]
    exact componentsOf_cutReversed _ (path.solid_ne_root final last inner)

theorem parent_map_components {first second : Path} (same : first.components = second.components) :
    first.parent?.map components = second.parent?.map components := by
  have defined : first.parent?.isSome = second.parent?.isSome := by
    unfold parent?
    rw [same]
    split <;> rfl
  cases found : first.parent? with
  | none =>
      have none : second.parent? = none := by simpa [found] using defined.symm
      rw [none]
  | some directory =>
      obtain ⟨other, found'⟩ := Option.isSome_iff_exists.mp
        (defined.symm.trans (congrArg Option.isSome found))
      rw [found', Option.map_some, Option.map_some, parent_components first directory found,
        parent_components second other found', same]

theorem joinPieces_ne_nil (separator : List Char) (pieces : List (List Char)) (piece : List Char)
    (member : piece ∈ pieces) (written : piece ≠ []) : Text.joinPieces separator pieces ≠ [] := by
  induction pieces using Text.joinPieces.induct with
  | case1 => contradiction
  | case2 single =>
      rw [Text.joinPieces, ← List.mem_singleton.mp member]
      exact written
  | case3 first rest more ih =>
      rw [Text.joinPieces]
      · rcases List.mem_cons.mp member with rfl | later
        · simp [written]
        · simp [ih later]
      · exact more

theorem name_ne_nil (name : List Char) (member : Component.normal name ∈ path.components) :
    name ≠ [] := by
  rintro rfl
  have solid : Component.normal [] ∈ path.solid := by
    rw [solid_eq]
    exact List.mem_filter.mpr ⟨member, rfl⟩
  unfold Path.solid solidOf at solid
  rcases List.mem_append.mp solid with root | named
  · split at root
    · exact nomatch List.mem_singleton.mp root
    · contradiction
  · obtain ⟨piece, -, read⟩ := List.mem_filterMap.mp named
    rw [← text_of_piece read] at read
    exact ((ofPiece_eq_normal []).mp read).1 rfl

theorem shown_components : ((path.below? base).getD path).components =
    if path.startsWith base then path.components.drop base.components.length
    else path.components := by
  cases found : path.below? base with
  | some rest =>
      have below : path.startsWith base = true := by
        unfold below? at found
        split at found
        · assumption
        · contradiction
      rw [if_pos below, Option.getD_some, below_components path base rest found]
  | none =>
      have apart : ¬ path.startsWith base = true := by
        intro below
        unfold below? at found
        rw [if_pos below] at found
        contradiction
      rw [if_neg apart, Option.getD_none]

theorem text_eq_empty (none : path.components = []) : path.text = "" := by
  rw [← String.toList_inj]
  by_contra written
  exact componentsOf_ne_nil path.text.toList (by simpa using written) none

theorem relativeTo_below (below : List Component) (lies : path.components = base.components ++ below)
    (some : below.filterMap Component.name? ≠ []) :
    path.relativeTo base =
      String.ofList (Text.joinPieces ['/'] (below.filterMap Component.name?)) := by
  have starts : path.startsWith base = true := by
    unfold startsWith
    rw [lies]
    exact List.isPrefixOf_iff_prefix.mpr (List.prefix_append _ _)
  have shown := path.shown_components base
  rw [if_pos starts, lies, List.drop_left] at shown
  obtain ⟨name, rest, names⟩ := List.exists_cons_of_ne_nil some
  obtain ⟨component, member, reads⟩ : ∃ component ∈ below, component.name? = .some name :=
    List.mem_filterMap.mp (names ▸ List.mem_cons_self)
  have written : name ≠ [] := by
    refine path.name_ne_nil name ?_
    rw [lies]
    cases component <;> cases reads
    exact List.mem_append_right _ member
  have proper := joinPieces_ne_nil ['/'] _ name (names ▸ List.mem_cons_self) written
  unfold relativeTo
  dsimp only
  rw [shown, if_neg (by simpa using proper)]

theorem relativeTo_same (same : path.components = base.components) : path.relativeTo base = "" := by
  have starts : path.startsWith base = true := by
    unfold startsWith
    rw [same]
    exact List.isPrefixOf_iff_prefix.mpr List.prefix_rfl
  have shown := path.shown_components base
  rw [if_pos starts, same, List.drop_length] at shown
  unfold relativeTo
  dsimp only
  rw [shown, text_eq_empty _ shown]
  rfl

/-- The components of a path that are shown of it: those below the root, or all of them. -/
def behind (root : Path) (steps : List Component) : List Component :=
  if root.components.isPrefixOf steps then steps.drop root.components.length else steps

/-- A path whose last component is a name is shown by the names among the components that are shown. -/
theorem relativeTo_named {name : List Char} (last : path.components.getLast? = some (.normal name))
    (root : Path) : path.relativeTo root = String.ofList (Text.joinPieces ['/']
      ((behind root path.components).filterMap Component.name?)) := by
  have shown : _ = behind root path.components := path.shown_components root
  unfold relativeTo
  dsimp only
  rw [shown]
  by_cases empty : behind root path.components = []
  · rw [text_eq_empty _ (shown.trans empty), empty]
    rfl
  · have final : (behind root path.components).getLast? = some (.normal name) := by
      unfold behind at empty ⊢
      split
      · rename_i below
        rw [if_pos below] at empty
        rw [List.getLast?_drop, if_neg (by simpa using empty), last]
      · exact last
    have member : name ∈ (behind root path.components).filterMap Component.name? :=
      List.mem_filterMap.mpr ⟨_, List.mem_of_getLast? final, rfl⟩
    have written : name ≠ [] := path.name_ne_nil name (List.mem_of_getLast? last)
    rw [if_neg (by simpa using joinPieces_ne_nil ['/'] _ name member written)]

/-- A path whose last component is a name is shown alike however it is written. -/
theorem relativeTo_congr {first second : Path} (same : first.components = second.components)
    (name : List Char) (last : first.components.getLast? = some (.normal name)) (root : Path) :
    first.relativeTo root = second.relativeTo root := by
  rw [first.relativeTo_named last, second.relativeTo_named (same ▸ last), same]

end UiContract.Path
