import UiContract.CommandLine
import UiContract.Proofs.BudgetSelection
import UiContract.Proofs.FileIdentity

/-!
Paths told from what is shown of them. Below the root a path is shown by its names with a slash between
neighbours, and this is a text that can be joined to the root: it leads back to the path. So no two paths
below the root are shown alike, and names can be put behind a path or behind what is shown of it.
-/
namespace UiContract

namespace Path

section Joining

variable {base : Path}

theorem join_append {front : String} (written : front ≠ "") (back : String) :
    base.join (front ++ back) = ⟨(base.join front).text ++ back⟩ := by
  have first : (front ++ back).toList.head? = front.toList.head? := by
    rw [String.toList_append, List.head?_append_of_ne_nil _ (by simpa using written)]
  unfold join
  rw [first]
  split
  · rfl
  · split
    · rw [String.append_assoc]
    · rw [← String.append_assoc]

theorem getLast_join {added : String} (written : added ≠ "") :
    (base.join added).text.toList.getLast? = added.toList.getLast? := by
  have some : added.toList ≠ [] := by simpa using written
  unfold join
  split
  · rfl
  · split <;> rw [String.toList_append, List.getLast?_append_of_ne_nil _ some]

theorem join_join {front : String} (written : front ≠ "") (ends : front.toList.getLast? ≠ some '/')
    {back : String} (relative : back.toList.head? ≠ some '/') :
    (base.join front).join back = base.join (front ++ "/" ++ back) := by
  have last : (base.join front).text.toList.getLast? = front.toList.getLast? := getLast_join written
  have some : (base.join front).text ≠ "" := by
    intro none
    rw [none] at last
    exact written (by simpa using last.symm)
  rw [String.append_assoc, join_append written, ← String.append_assoc, join,
    if_neg (by simpa using relative), if_neg (by simpa [some, last] using ends)]

end Joining

section Segments

/-- A text of names with a slash between neighbours: none of them is empty, and none stands for a directory
by itself. -/
def Segmented (text : String) : Prop :=
  ∀ segment ∈ Text.pieces (· == '/') text.toList,
    segment ≠ [] ∧ segment ≠ ['.'] ∧ segment ≠ ['.', '.']

instance : DecidablePred Segmented := fun _ => inferInstanceAs (Decidable (∀ _ ∈ _, _))

theorem segmented_iff (text : String) : Segmented text ↔
    ∃ names, names ≠ [] ∧ (∀ name ∈ names, Plain (.normal name)) ∧ text = shown names := by
  constructor
  · intro segmented
    refine ⟨Text.pieces (· == '/') text.toList, Text.pieces_ne_nil _ _, fun name member => ?_, ?_⟩
    · exact ⟨(ofPiece_eq_normal name).mpr (segmented name member), Text.pieces_separated _ _ name member⟩
    · rw [shown, Text.joinPieces_pieces, String.ofList_toList]
  · rintro ⟨names, some, plain, rfl⟩ segment member
    rw [shown, String.toList_ofList, Text.pieces_joinPieces _ '/' rfl names some
      fun name listed => (plain name listed).2] at member
    exact (ofPiece_eq_normal segment).mp (plain segment member).1

theorem Segmented.ends {text : String} (segmented : Segmented text) :
    text.toList.head? ≠ some '/' ∧ text.toList.getLast? ≠ some '/' := by
  -- A slash at an end has the empty piece on its other side.
  have blank : [] ∉ Text.pieces (· == '/') text.toList := fun member => (segmented [] member).1 rfl
  constructor
  · intro slash
    obtain ⟨rest, whole⟩ := List.head?_eq_some_iff.mp slash
    rw [whole, ← List.nil_append ('/' :: rest), Text.pieces_append _ [] rest '/' rfl] at blank
    exact blank (List.mem_append_left _ List.mem_cons_self)
  · intro slash
    obtain ⟨front, whole⟩ := List.getLast?_eq_some_iff.mp slash
    rw [whole, Text.pieces_append _ front [] '/' rfl] at blank
    exact blank (List.mem_append_right _ List.mem_cons_self)

theorem Segmented.ne_empty {text : String} (segmented : Segmented text) : text ≠ "" := by
  rintro rfl
  exact (segmented [] List.mem_cons_self).1 rfl

theorem Settled.append {steps : List Component} (settled : Settled steps) {names : List (List Char)}
    (plain : ∀ name ∈ names, Plain (.normal name)) : Settled (steps ++ names.map .normal) := by
  induction names generalizing steps with
  | nil => rwa [List.map_nil, List.append_nil]
  | cons name rest ih =>
      obtain ⟨first, others⟩ := List.forall_mem_cons.mp plain
      rw [List.map_cons, List.append_cons]
      exact ih (settled.concat first) others

theorem Based.settled {root : Path} (based : root.Based) : Settled root.components := by
  obtain ⟨steps, settled, same⟩ := (normal_iff root).mp based.normal
  rwa [same, ofComponents_components settled.tidy]

theorem Based.ne_empty {root : Path} (based : root.Based) : root.text ≠ "" := by
  intro empty
  have above := based.absolute
  rw [isAbsolute, empty] at above
  contradiction

theorem settled_names {names : List (List Char)} (plain : ∀ name ∈ names, Plain (.normal name)) :
    Settled (names.map .normal) :=
  Settled.append ⟨⟨[], nofun, .inl rfl⟩, ⟨[], 0, .inl rfl⟩⟩ plain

theorem mk_shown {names : List (List Char)} (plain : ∀ name ∈ names, Plain (.normal name)) :
    Path.mk (shown names) = ofComponents (names.map .normal) := by
  have texts : (names.map Component.normal).map Component.text = names := by
    rw [List.map_map]
    exact List.map_id names
  have steps : ∀ step ∈ names.map Component.normal, Plain step := by simpa using plain
  rw [shown, ofComponents, textOf_plain _ steps, texts]

/-- Names that are joined to a folded path with slashes between them are put behind its steps. -/
theorem join_shown {steps : List Component} (settled : Settled steps) {names : List (List Char)}
    (some : names ≠ []) (plain : ∀ name ∈ names, Plain (.normal name)) :
    (ofComponents steps).join (shown names) = ofComponents (steps ++ names.map .normal) := by
  -- One name is put there after the other, from the first one on.
  induction names using List.reverseRecOn with
  | nil => contradiction
  | append_singleton front last ih =>
      obtain ⟨before, final⟩ := List.forall_mem_append.mp plain
      have single := final last List.mem_cons_self
      by_cases more : front = []
      · subst more
        exact join_ofComponents settled.tidy single
      · have segmented : Segmented (shown front) := (segmented_iff _).mpr ⟨front, more, before, rfl⟩
        have written : shown (front ++ [last]) = shown front ++ "/" ++ String.ofList last := by
          rw [shown, Text.joinPieces_append '/' front [last] more (List.cons_ne_nil _ _),
            String.append_assoc, String.ofList_append, String.ofList_cons]
          rfl
        rw [written, ← join_join segmented.ne_empty segmented.ends.2 single.relative, ih more before,
          join_ofComponents (settled.append before).tidy single, List.map_append, List.append_assoc]
        rfl

end Segments

/-- A folded path below a folded root that begins at the root of the file system, or the root itself. -/
structure Within (root path : Path) : Prop where
  based : root.Based
  normal : path.normalize = path
  below : path.startsWith root = true

instance (root path : Path) : Decidable (Within root path) :=
  decidable_of_iff ((root.isAbsolute = true ∧ root.normalize = root) ∧ path.normalize = path ∧
      path.startsWith root = true)
    ⟨fun ⟨⟨absolute, folded⟩, normal, below⟩ => ⟨⟨absolute, folded⟩, normal, below⟩,
      fun within => ⟨⟨within.based.absolute, within.based.normal⟩, within.normal, within.below⟩⟩

namespace Within

variable {root path other : Path}

theorem path_based (within : Within root path) : path.Based := by
  refine ⟨(root_mem_components path).mp ((startsWith_iff.mp within.below).subset ?_), within.normal⟩
  exact (root_mem_components root).mpr within.based.absolute

theorem rooted (within : Within root path) : root.components ≠ [] := by
  obtain ⟨names, steps⟩ := within.based.names
  exact steps ▸ List.cons_ne_nil _ _

/-- What is put behind the root by its names lies within it and is shown by them. -/
theorem of_names (based : root.Based) {names : List (List Char)}
    (plain : ∀ name ∈ names, Plain (.normal name)) :
    Within root (ofComponents (root.components ++ names.map .normal)) ∧
      (ofComponents (root.components ++ names.map .normal)).relativeTo root = shown names := by
  have settled := based.settled.append plain
  have steps := ofComponents_components settled.tidy
  refine ⟨⟨based, normalize_ofComponents settled, ?_⟩, Checks.relativeTo_names steps⟩
  rw [startsWith_iff, steps]
  exact List.prefix_append _ _

/-- A path within the root is the root with names behind it, by which it is shown. -/
theorem names (within : Within root path) : ∃ names, (∀ name ∈ names, Plain (.normal name)) ∧
    (names = [] → path = root) ∧ path = ofComponents (root.components ++ names.map .normal) ∧
    path.relativeTo root = shown names := by
  have steps := within.path_based.shown_below within.below within.rooted
  have written : path = ofComponents (root.components ++ (shownNames root path).map .normal) := by
    rw [← steps]
    exact within.path_based.written
  refine ⟨shownNames root path, fun name => shownNames_plain, fun none => ?_, written,
    Checks.relativeTo_names steps⟩
  rw [written, none, List.map_nil, List.append_nil, ← within.based.written]

section Apart

variable (within : Within root path) (apart : path ≠ root)

include within apart

theorem segmented : Segmented (path.relativeTo root) := by
  obtain ⟨names, plain, top, -, shows⟩ := within.names
  exact (segmented_iff _).mpr ⟨names, fun none => apart (top none), plain, shows⟩

theorem join_relativeTo : root.join (path.relativeTo root) = path := by
  obtain ⟨names, plain, top, written, shows⟩ := within.names
  have joined := join_shown within.based.settled (fun none => apart (top none)) plain
  rwa [← within.based.written, ← written, ← shows] at joined

end Apart

theorem relativeTo_eq_empty (within : Within root path) : path.relativeTo root = "" ↔ path = root := by
  constructor
  · intro none
    by_contra apart
    exact (within.segmented apart).ne_empty none
  · rintro rfl
    exact path.relativeTo_same path rfl

/-- What is shown of a path leads there, if only with a slash behind the root. -/
theorem join_same (within : Within root path) :
    (root.join (path.relativeTo root)).components = path.components := by
  by_cases top : path = root
  · rw [within.relativeTo_eq_empty.mpr top, join_components within.based.ne_empty "" (by simp), top]
    exact List.append_nil _
  · rw [within.join_relativeTo top]

theorem eq_of_shown (within : Within root path) (within' : Within root other)
    (same : path.relativeTo root = other.relativeTo root) : path = other := by
  refine within.path_based.eq_of_components within'.path_based ?_
  rw [← within.join_same, ← within'.join_same, same]

theorem join_segmented (within : Within root path) {added : String} (segmented : Segmented added) :
    Within root (path.join added) ∧
      (path.join added).relativeTo root = ((Path.mk (path.relativeTo root)).join added).text := by
  obtain ⟨front, plain, -, written, shows⟩ := within.names
  obtain ⟨back, some, plain', rfl⟩ := (segmented_iff added).mp segmented
  have all : ∀ name ∈ front ++ back, Plain (.normal name) := List.forall_mem_append.mpr ⟨plain, plain'⟩
  have joined : path.join (shown back) =
      ofComponents (root.components ++ (front ++ back).map .normal) := by
    rw [written, join_shown (within.based.settled.append plain) some plain', List.map_append,
      List.append_assoc]
  have behind : (Path.mk (shown front)).join (shown back) = ⟨shown (front ++ back)⟩ := by
    rw [mk_shown plain, join_shown (settled_names plain) some plain', mk_shown all, List.map_append]
  obtain ⟨inside, shows'⟩ := of_names within.based all
  rw [joined, shows, behind]
  exact ⟨inside, shows'⟩

end Within

/-- Of a folded path within a folded root nothing is shown where it is the root itself, and else a text
without slashes at its ends whose segments are names. The root joined with what is shown is the path again,
so different paths are shown differently; and segments that are put behind a path are put behind what is
shown of it. -/
theorem relativeTo_exact {root path : Path} (within : Within root path) :
    (path.relativeTo root = "" ↔ path = root) ∧
    (path ≠ root → (path.relativeTo root).toList.head? ≠ some '/' ∧
      (path.relativeTo root).toList.getLast? ≠ some '/' ∧ Segmented (path.relativeTo root) ∧
      root.join (path.relativeTo root) = path) ∧
    (root.join (path.relativeTo root)).same path = true ∧
    (∀ other, Within root other → path.relativeTo root = other.relativeTo root → path = other) ∧
    ∀ added, Segmented added → Within root (path.join added) ∧
      (path.join added).relativeTo root = ((Path.mk (path.relativeTo root)).join added).text := by
  refine ⟨within.relativeTo_eq_empty, fun apart => ?_, (same_iff _ _).mpr within.join_same,
    fun other => within.eq_of_shown, fun added => within.join_segmented⟩
  have segmented := within.segmented apart
  exact ⟨segmented.ends.1, segmented.ends.2, segmented, within.join_relativeTo apart⟩

theorem relativeTo_exact_page :
    Within ⟨"/repo"⟩ ⟨"/repo/src/ui\\é"⟩ ∧ Segmented "...tsx/x" ∧
    (⟨"/repo/src/ui\\é"⟩ : Path) ≠ ⟨"/repo"⟩ ∧
    Path.join ⟨"/repo"⟩ (Path.relativeTo ⟨"/repo/src/ui\\é"⟩ ⟨"/repo"⟩) = ⟨"/repo/src/ui\\é"⟩ ∧
    Path.relativeTo ⟨"/repo/src/ui\\é/...tsx/x"⟩ ⟨"/repo"⟩ = "src/ui\\é/...tsx/x" := by
  have within : Within ⟨"/repo"⟩ ⟨"/repo/src/ui\\é"⟩ := by decide
  have added : Segmented "...tsx/x" := by decide
  have apart : (⟨"/repo/src/ui\\é"⟩ : Path) ≠ ⟨"/repo"⟩ := by decide
  obtain ⟨-, below, -, -, behind⟩ := relativeTo_exact within
  exact ⟨within, added, apart, (below apart).2.2.2, (behind _ added).2⟩

end Path

end UiContract
