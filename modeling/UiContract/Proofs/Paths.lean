import Mathlib.Data.List.TakeWhile
import UiContract.Path

/-!
Paths that differ in their writing alone. The solid components of a path leave out a `.` in front;
they decide what a path is folded to, and the parent of a path and what is seen from there are found
without looking at the slashes and dots between the names.
-/
namespace UiContract

namespace Text

variable (separates : Char → Bool)

theorem pieces_ne_nil (characters : List Char) : pieces separates characters ≠ [] := by
  cases characters with
  | nil => exact List.cons_ne_nil _ _
  | cons character rest =>
      unfold pieces
      split
      · exact List.cons_ne_nil _ _
      · split <;> exact List.cons_ne_nil _ _

theorem pieces_append (front back : List Char) (separator : Char)
    (cuts : separates separator = true) :
    pieces separates (front ++ separator :: back) =
      pieces separates front ++ pieces separates back := by
  induction front with
  | nil => simp [pieces, cuts]
  | cons character rest ih =>
      rw [List.cons_append, pieces, pieces, ih]
      by_cases apart : separates character = true
      · rw [if_pos apart, if_pos apart, List.cons_append]
      · rw [if_neg apart, if_neg apart]
        cases started : pieces separates rest with
        | nil => exact absurd started (pieces_ne_nil separates rest)
        | cons first others => rfl

theorem head_pieces_append (front back : List Char) (separator : Char)
    (cuts : separates separator = true) :
    (pieces separates (front ++ separator :: back)).head? = (pieces separates front).head? := by
  rw [pieces_append separates front back separator cuts]
  obtain ⟨first, others, started⟩ := List.exists_cons_of_ne_nil (pieces_ne_nil separates front)
  rw [started]
  rfl

theorem pieces_whole (characters : List Char)
    (whole : ∀ character ∈ characters, separates character = false) :
    pieces separates characters = [characters] := by
  induction characters with
  | nil => rfl
  | cons character rest ih =>
      rw [pieces, whole character List.mem_cons_self, if_neg Bool.false_ne_true,
        ih fun later member => whole later (List.mem_cons_of_mem character member)]

end Text

namespace Component

instance : Std.LawfulEqOrd Component where
  eq_of_compare {first second} same := by
    obtain ⟨ranks, names⟩ := Ordering.then_eq_eq.mp same
    have rank := Std.LawfulEqOrd.eq_of_compare ranks
    have name := Std.LawfulEqOrd.eq_of_compare names
    cases first <;> cases second <;> simp_all [Component.rank, name?]

end Component

namespace Path

theorem compare_eq_iff (first second : Path) :
    compare first second = .eq ↔ first.components = second.components := by
  show compare first.components second.components = .eq ↔ _
  exact Std.LawfulEqOrd.compare_eq_iff_eq

theorem same_iff (first second : Path) :
    first.same second = true ↔ first.components = second.components :=
  beq_iff_eq

def solidOf (characters : List Char) : List Component :=
  (if characters.head? = some '/' then [Component.root] else []) ++
    (Text.pieces (· == '/') characters).filterMap Component.ofPiece?

def solid (path : Path) : List Component :=
  solidOf path.text.toList

theorem ofPiece_solid (piece : List Char) (component : Component)
    (read : Component.ofPiece? piece = some component) :
    component ≠ .current ∧ component ≠ .root := by
  unfold Component.ofPiece? at read
  split at read
  · contradiction
  · split at read <;> rw [← Option.some.inj read] <;> exact ⟨nofun, nofun⟩

theorem ofPiece_eq_none (piece : List Char) :
    Component.ofPiece? piece = none ↔ piece = [] ∨ piece = ['.'] := by
  unfold Component.ofPiece?
  split
  · simp_all
  · split <;> simp_all

theorem ofPiece_eq_normal (name : List Char) : Component.ofPiece? name = some (.normal name) ↔
    name ≠ [] ∧ name ≠ ['.'] ∧ name ≠ ['.', '.'] := by
  unfold Component.ofPiece?
  by_cases stays : name = [] ∨ name = ['.']
  · rcases stays with rfl | rfl <;> simp
  · by_cases climbs : name = ['.', '.'] <;> simp_all

theorem text_of_piece {piece : List Char} {step : Component}
    (read : Component.ofPiece? piece = some step) : step.text = piece := by
  unfold Component.ofPiece? at read
  split at read
  · contradiction
  · split at read
    · rename_i dots
      rw [← Option.some.inj read]
      exact (beq_iff_eq.mp dots).symm
    · rw [← Option.some.inj read]
      rfl

theorem filter_ofPiece (pieces : List (List Char)) :
    (pieces.filterMap Component.ofPiece?).filter (· ≠ .current) =
      pieces.filterMap Component.ofPiece? := by
  refine List.filter_eq_self.mpr fun component member => ?_
  obtain ⟨piece, -, read⟩ := List.mem_filterMap.mp member
  simpa using (ofPiece_solid piece component read).1

theorem filter_leading (first : List Char) (others : List (List Char)) :
    ((if first == ['.'] then [Component.current] else []) ++
        (first :: others).filterMap Component.ofPiece?).filter (· ≠ .current) =
      (first :: others).filterMap Component.ofPiece? := by
  rw [List.filter_append, filter_ofPiece]
  split <;> rfl

theorem filter_componentsOf (characters : List Char) :
    (componentsOf characters).filter (· ≠ .current) = solidOf characters := by
  unfold componentsOf solidOf
  cases characters with
  | nil => rfl
  | cons first rest =>
      by_cases slash : first = '/'
      · subst slash
        rw [Text.pieces, if_pos (beq_self_eq_true '/')]
        exact congrArg (Component.root :: ·) (filter_ofPiece (Text.pieces (· == '/') rest))
      · rw [Text.pieces, if_neg (by simpa using slash), List.head?_cons,
          if_neg fun same => slash (Option.some.inj same), List.nil_append]
        cases Text.pieces (· == '/') rest with
        | nil => exact filter_leading [first] []
        | cons piece others => exact filter_leading (first :: piece) others

theorem solid_eq (path : Path) : path.solid = path.components.filter (· ≠ .current) :=
  (filter_componentsOf path.text.toList).symm

theorem solid_congr {first second : Path} (same : first.components = second.components) :
    first.solid = second.solid := by
  rw [solid_eq, solid_eq, same]

theorem componentsOf_absolute (characters : List Char) (above : characters.head? = some '/') :
    componentsOf characters = solidOf characters := by
  obtain ⟨rest, rfl⟩ := List.head?_eq_some_iff.mp above
  rw [componentsOf, solidOf, Text.pieces, if_pos (beq_self_eq_true '/')]
  rfl

theorem root_mem_solid (path : Path) : Component.root ∈ path.solid ↔ path.isAbsolute = true := by
  have named : Component.root ∉
      (Text.pieces (· == '/') path.text.toList).filterMap Component.ofPiece? := by
    intro member
    obtain ⟨piece, -, read⟩ := List.mem_filterMap.mp member
    exact (ofPiece_solid piece .root read).2 rfl
  unfold solid solidOf isAbsolute
  rw [List.mem_append, or_iff_left named, beq_iff_eq]
  split <;> simp_all

theorem fold_filter (components : List Component) :
    fold (components.filter (· ≠ .current)) = fold components := by
  suffices general : ∀ folded, (components.filter (· ≠ .current)).foldl foldStep folded =
      components.foldl foldStep folded from congrArg List.reverse (general [])
  induction components with
  | nil => intro folded; rfl
  | cons head rest ih =>
      intro folded
      by_cases skipped : head = .current
      · subst skipped
        simpa [foldStep] using ih folded
      · simpa [skipped] using ih (foldStep folded head)

theorem normalize_congr {first second : Path} (same : first.solid = second.solid) :
    first.normalize = second.normalize := by
  unfold normalize
  rw [← fold_filter first.components, ← fold_filter second.components, ← solid_eq, ← solid_eq, same]

theorem solidOf_append (front back : List Char) :
    solidOf (front ++ '/' :: back) =
      solidOf (front ++ ['/']) ++ (Text.pieces (· == '/') back).filterMap Component.ofPiece? := by
  unfold solidOf
  rw [Text.pieces_append (· == '/') front back '/' rfl, Text.pieces_append (· == '/') front [] '/' rfl]
  cases front <;> simp [Text.pieces, Component.ofPiece?]

theorem solidOf_slash (characters : List Char) (written : characters ≠ []) :
    solidOf (characters ++ ['/']) = solidOf characters := by
  unfold solidOf
  rw [Text.pieces_append (· == '/') characters [] '/' rfl]
  cases characters with
  | nil => contradiction
  | cons first rest => simp [Text.pieces, Component.ofPiece?]

theorem solidOf_dot (characters : List Char) :
    solidOf (characters ++ ['/', '.']) = solidOf (characters ++ ['/']) := by
  rw [solidOf_append]
  simp [Text.pieces, Component.ofPiece?]

theorem solidOf_trimReversed (reversed : List Char) :
    solidOf (trimReversed reversed).reverse = solidOf reversed.reverse := by
  induction reversed using trimReversed.induct with
  | case1 => rfl
  | case2 rest long ih =>
      have written : rest.reverse ≠ [] := by simpa using long
      rw [trimReversed, ih, List.reverse_cons, solidOf_slash _ written]
      exact long
  | case3 rest ih =>
      rw [trimReversed, ih]
      simpa using (solidOf_dot rest.reverse).symm
  | case4 rest lone slash dot => rw [trimReversed] <;> assumption

/-- What is left after trimming is a lone slash, or ends in a piece that is a component. -/
theorem trimReversed_ends (reversed : List Char) :
    trimReversed reversed = ['/'] ∨
      (∀ rest, trimReversed reversed ≠ '/' :: rest) ∧
        ∀ rest, trimReversed reversed ≠ '.' :: '/' :: rest := by
  induction reversed using trimReversed.induct with
  | case1 => exact .inl rfl
  | case2 rest long ih => rwa [trimReversed]; exact long
  | case3 rest ih => rwa [trimReversed]
  | case4 rest lone slash dot =>
      rw [trimReversed] <;> try assumption
      exact .inr ⟨slash, dot⟩

theorem solidOf_name (name : List Char)
    (whole : ∀ character ∈ name, (character == '/') = false) :
    solidOf name = (Component.ofPiece? name).toList := by
  have inside : name.head? ≠ some '/' := by
    intro first
    have slash := whole '/' (List.mem_of_head? first)
    contradiction
  rw [solidOf, if_neg inside, Text.pieces_whole _ name whole]
  cases read : Component.ofPiece? name <;> simp [read]

theorem solidOf_append_name (front name : List Char)
    (whole : ∀ character ∈ name, (character == '/') = false) :
    solidOf (front ++ '/' :: name) =
      solidOf (front ++ ['/']) ++ (Component.ofPiece? name).toList := by
  rw [solidOf_append, Text.pieces_whole _ name whole]
  cases read : Component.ofPiece? name <;> simp [read]

def leading (characters : List Char) : List Component :=
  if (Text.pieces (· == '/') characters).head? = some ['.'] then [Component.current] else []

theorem componentsOf_eq (characters : List Char) :
    componentsOf characters = leading characters ++ solidOf characters := by
  cases characters with
  | nil => rfl
  | cons first rest =>
      by_cases slash : first = '/'
      · subst slash
        rw [componentsOf_absolute _ rfl, leading, Text.pieces, if_pos (beq_self_eq_true '/')]
        rfl
      · have inside : (first :: rest).head? ≠ some '/' := by simpa using slash
        unfold componentsOf solidOf leading
        rw [if_neg inside, List.nil_append, Text.pieces, if_neg (by simpa using slash)]
        cases Text.pieces (· == '/') rest with
        | nil => simp
        | cons piece others => simp

theorem leading_append (front back : List Char) : leading (front ++ '/' :: back) = leading front := by
  unfold leading
  rw [Text.head_pieces_append (· == '/') front back '/' rfl]

theorem leading_trimReversed (reversed : List Char) :
    leading (trimReversed reversed).reverse = leading reversed.reverse := by
  induction reversed using trimReversed.induct with
  | case1 => rfl
  | case2 rest long ih =>
      rw [trimReversed, ih, List.reverse_cons, leading_append]
      exact long
  | case3 rest ih =>
      rw [trimReversed, ih, List.reverse_cons, List.reverse_cons, List.reverse_cons, List.append_assoc,
        leading_append]
      exact (leading_append rest.reverse ['.']).symm
  | case4 rest lone slash dot => rw [trimReversed] <;> assumption

theorem componentsOf_trimReversed (reversed : List Char) :
    componentsOf (trimReversed reversed).reverse = componentsOf reversed.reverse := by
  rw [componentsOf_eq, componentsOf_eq, solidOf_trimReversed, leading_trimReversed]

/-- A text is a name without slashes, or a slash and more stand behind such a name. -/
theorem name_or_slash (characters : List Char) :
    ∃ name, (∀ character ∈ name, (character == '/') = false) ∧
      (characters = name ∧ characters.dropWhile (· != '/') = [] ∨
        ∃ rest, characters = name ++ '/' :: rest ∧
          characters.dropWhile (· != '/') = '/' :: rest) := by
  have split := List.takeWhile_append_dropWhile (p := (· != '/')) (l := characters)
  refine ⟨characters.takeWhile (· != '/'), fun character member => ?_, ?_⟩
  · simpa using List.mem_takeWhile_imp member
  · cases rest : characters.dropWhile (· != '/') with
    | nil =>
        rw [rest, List.append_nil] at split
        exact .inl ⟨split.symm, rfl⟩
    | cons slash back =>
        have first := List.head?_dropWhile_not (· != '/') characters
        rw [rest] at first
        rw [show slash = '/' by simpa using first] at rest ⊢
        rw [rest] at split
        exact .inr ⟨back, split.symm, rfl⟩

theorem componentsOf_name (name : List Char)
    (whole : ∀ character ∈ name, (character == '/') = false) :
    componentsOf name =
      (if name = ['.'] then [Component.current] else []) ++ (Component.ofPiece? name).toList := by
  rw [componentsOf_eq, solidOf_name name whole]
  simp only [leading, Text.pieces_whole _ name whole, List.head?_cons, Option.some.injEq]

theorem componentsOf_name_length (name : List Char)
    (whole : ∀ character ∈ name, (character == '/') = false) :
    (componentsOf name).length ≤ 1 := by
  rw [componentsOf_name name whole]
  by_cases dot : name = ['.']
  · rw [if_pos dot, dot]
    exact Nat.le_refl 1
  · rw [if_neg dot]
    cases Component.ofPiece? name <;> simp

theorem componentsOf_cutReversed (characters : List Char)
    (below : solidOf characters ≠ [Component.root]) :
    componentsOf (cutReversed characters.reverse).reverse = (componentsOf characters).dropLast := by
  have trimmed := componentsOf_trimReversed characters.reverse
  have solid := solidOf_trimReversed characters.reverse
  rw [List.reverse_reverse] at trimmed solid
  rw [cutReversed, componentsOf_trimReversed, ← trimmed]
  rw [← solid] at below
  have ends := trimReversed_ends characters.reverse
  generalize trimReversed characters.reverse = reversed at below ends
  -- The text is cut at its last slash; the name behind it has a single piece.
  obtain ⟨name, bare, cut⟩ := name_or_slash reversed
  have whole : ∀ character ∈ name.reverse, (character == '/') = false :=
    fun character member => bare character (List.mem_reverse.mp member)
  obtain ⟨rfl, rest⟩ | ⟨front, rfl, rest⟩ := cut
  · have single := componentsOf_name_length reversed.reverse whole
    have none : (componentsOf reversed.reverse).dropLast = [] := by
      rw [← List.length_eq_zero_iff, List.length_dropLast]
      omega
    rw [rest, none]
    rfl
  · have written : (name ++ '/' :: front).reverse = front.reverse ++ '/' :: name.reverse := by simp
    rw [rest, written, List.reverse_cons, componentsOf_eq, componentsOf_eq, leading_append,
      leading_append, solidOf_append_name _ _ whole]
    cases read : Component.ofPiece? name.reverse with
    | some component => simp
    | none =>
        -- Only the root ends in something that is no component.
        exfalso
        rcases ends with lone | ⟨named, dotted⟩
        · rw [lone] at below
          exact below rfl
        · rcases (ofPiece_eq_none name.reverse).mp read with empty | dot
          · rw [List.reverse_eq_nil_iff.mp empty] at named
            exact named front rfl
          · rw [List.reverse_eq_iff.mp dot] at dotted
            exact dotted front rfl

theorem solidOf_cutReversed (characters : List Char)
    (below : solidOf characters ≠ [Component.root]) :
    solidOf (cutReversed characters.reverse).reverse = (solidOf characters).dropLast := by
  have front : (leading characters).filter (· ≠ .current) = [] := by
    unfold leading
    split <;> rfl
  have inner := filter_componentsOf characters
  rw [componentsOf_eq, List.filter_append, front, List.nil_append] at inner
  rw [← filter_componentsOf, componentsOf_cutReversed characters below, componentsOf_eq]
  by_cases empty : solidOf characters = []
  · rw [empty, List.append_nil]
    unfold leading
    split <;> rfl
  · rw [List.dropLast_append_of_ne_nil empty, List.filter_append, front, List.nil_append]
    exact List.filter_eq_self.mpr fun component member =>
      List.filter_eq_self.mp inner component (List.dropLast_subset _ member)

theorem solid_ne_root (path : Path) (final : Component)
    (last : path.components.getLast? = some final) (inner : final ≠ .root) :
    path.solid ≠ [Component.root] := by
  refine fun lone => inner ?_
  have above : path.isAbsolute = true := by
    rw [← root_mem_solid, lone]
    exact List.mem_singleton_self _
  rw [components, componentsOf_absolute _ (by simpa [isAbsolute] using above), ← solid, lone] at last
  exact (Option.some.inj last).symm

theorem solid_cut (path : Path) (final : Component)
    (last : path.components.getLast? = some final) (inner : final ≠ .root) :
    solidOf (cutReversed path.text.toList.reverse).reverse = path.solid.dropLast :=
  solidOf_cutReversed _ (path.solid_ne_root final last inner)

theorem parent_congr {first second : Path} (same : first.components = second.components)
    (root : Path) :
    (first.parent?.getD root).solid = (second.parent?.getD root).solid := by
  unfold parent?
  rw [same]
  split
  · rfl
  · rfl
  · rename_i final inner last
    simp only [Option.getD_some, solid, String.toList_ofList]
    rw [solid_cut first final (same ▸ last) inner, solid_cut second final last inner,
      solid_congr same]

theorem join_solid (base : Path) (added : String) (relative : added.toList.head? ≠ some '/') :
    (base.join added).solid =
      base.solid ++ (Text.pieces (· == '/') added.toList).filterMap Component.ofPiece? := by
  have bare : ¬ (added.toList.head? == some '/') = true := by simpa using relative
  unfold join solid
  rw [if_neg bare]
  split
  · rename_i close
    rw [String.toList_append]
    rcases List.eq_nil_or_concat base.text.toList with empty | ⟨front, last, written⟩
    · rw [empty, List.nil_append, solidOf, if_neg relative]
      rfl
    · have slash : last = '/' := by
        rw [written] at close
        simpa [← String.toList_inj, written] using close
      rw [written, slash, List.concat_eq_append, List.append_assoc]
      exact solidOf_append front added.toList
  · rename_i apart
    have written : base.text.toList ≠ [] := by
      intro empty
      exact apart (by simp [← String.toList_inj, empty])
    rw [String.toList_append, String.toList_append, List.append_assoc]
    exact (solidOf_append base.text.toList added.toList).trans (by rw [solidOf_slash _ written])

/-- A relative text is put behind a slash, which the path may end in already. -/
theorem join_text {base : Path} (written : base.text ≠ "") (added : String)
    (relative : added.toList.head? ≠ some '/') :
    ∃ front, (base.text.toList = front ∨ base.text.toList = front ++ ['/']) ∧
      (base.join added).text.toList = front ++ '/' :: added.toList := by
  unfold join
  rw [if_neg (by simpa using relative)]
  split
  · rename_i close
    have slash : base.text.toList.getLast? = some '/' := by simpa [written] using close
    obtain ⟨front, whole⟩ := List.getLast?_eq_some_iff.mp slash
    refine ⟨front, .inr whole, ?_⟩
    rw [String.toList_append, whole, List.append_assoc]
    rfl
  · refine ⟨base.text.toList, .inl rfl, ?_⟩
    rw [String.toList_append, String.toList_append, List.append_assoc]
    rfl

theorem join_ne_empty {base : Path} (written : base.text ≠ "") (added : String)
    (relative : added.toList.head? ≠ some '/') : (base.join added).text ≠ "" := by
  obtain ⟨front, -, whole⟩ := join_text written added relative
  intro empty
  rw [empty] at whole
  simp at whole

theorem join_components {base : Path} (written : base.text ≠ "") (added : String)
    (relative : added.toList.head? ≠ some '/') :
    (base.join added).components =
      base.components ++ (Text.pieces (· == '/') added.toList).filterMap Component.ofPiece? := by
  obtain ⟨front, ends, whole⟩ := join_text written added relative
  have solid := join_solid base added relative
  have first : leading (base.join added).text.toList = leading base.text.toList := by
    rw [whole, leading_append]
    rcases ends with same | same
    · rw [same]
    · rw [same, leading_append]
  show componentsOf _ = componentsOf _ ++ _
  rw [componentsOf_eq, componentsOf_eq, first, List.append_assoc]
  exact congrArg (leading base.text.toList ++ ·) solid

theorem normalize_join_congr {first second : Path} (same : first.solid = second.solid)
    (added : String) (relative : added.toList.head? ≠ some '/') :
    (first.join added).normalize = (second.join added).normalize :=
  normalize_congr (by rw [join_solid _ _ relative, join_solid _ _ relative, same])

end Path

end UiContract
