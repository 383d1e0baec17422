import UiContract.Proofs.ComparedForms
import UiContract.Proofs.FoldedPaths
import UiContract.Proofs.RelativePaths

/-!
Names that a path spells as they are. A row of such names is written with slashes between them, the
written form has a name for each piece, and it is the form in which paths and globs are compared.
-/
namespace UiContract

namespace Text

variable (separator : Char)

theorem joinPieces_cons (piece : List Char) (rest : List (List Char)) :
    ∃ back, joinPieces [separator] (piece :: rest) = piece ++ back := by
  cases rest with
  | nil => exact ⟨[], (List.append_nil piece).symm⟩
  | cons next more => exact ⟨[separator] ++ joinPieces [separator] (next :: more), by simp [joinPieces]⟩

theorem joinPieces_append (front back : List (List Char)) (some : front ≠ []) (more : back ≠ []) :
    joinPieces [separator] (front ++ back) =
      joinPieces [separator] front ++ separator :: joinPieces [separator] back := by
  induction front using joinPieces.induct with
  | case1 => contradiction
  | case2 piece =>
      obtain ⟨next, rest, rfl⟩ := List.exists_cons_of_ne_nil more
      simp [joinPieces]
  | case3 piece rest long ih =>
      have longer : rest ++ back ≠ [] := by simp [more]
      rw [List.cons_append, joinPieces.eq_3 _ _ _ longer, joinPieces.eq_3 _ _ _ long, ih long]
      simp

theorem joinPieces_concat (front : List (List Char)) :
    ∃ start, ∀ last, joinPieces [separator] (front ++ [last]) = start ++ last := by
  cases front with
  | nil => exact ⟨[], fun last => rfl⟩
  | cons piece rest =>
      refine ⟨joinPieces [separator] (piece :: rest) ++ [separator], fun last => ?_⟩
      rw [joinPieces_append separator _ _ (List.cons_ne_nil _ _) (List.cons_ne_nil _ _),
        List.append_assoc]
      rfl

theorem mem_joinPieces (parts : List (List Char)) (character : Char)
    (member : character ∈ joinPieces [separator] parts) :
    character = separator ∨ ∃ piece ∈ parts, character ∈ piece := by
  induction parts using joinPieces.induct with
  | case1 => contradiction
  | case2 piece => exact .inr ⟨piece, List.mem_cons_self, member⟩
  | case3 piece rest long ih =>
      rw [joinPieces.eq_3 _ _ _ long, List.append_assoc, List.mem_append, List.mem_append,
        List.mem_singleton] at member
      rcases member with here | same | later
      · exact .inr ⟨piece, List.mem_cons_self, here⟩
      · exact .inl same
      · rcases ih later with same | ⟨other, listed, inside⟩
        · exact .inl same
        · exact .inr ⟨other, List.mem_cons_of_mem piece listed, inside⟩

/-- The first piece is empty only where the text is, or where a separator stands in front. -/
theorem head_of_pieces (text : List Char) (others : List (List Char))
    (cut : pieces (· == separator) text = [] :: others) :
    text = [] ∨ text.head? = some separator := by
  cases text with
  | nil => exact .inl rfl
  | cons character rest =>
      unfold pieces at cut
      by_cases cuts : (character == separator) = true
      · exact .inr (congrArg some (beq_iff_eq.mp cuts))
      · rw [if_neg cuts] at cut
        split at cut <;> exact absurd (List.cons.inj cut).1 (List.cons_ne_nil _ _)

theorem joinPieces_pieces (text : List Char) :
    joinPieces [separator] (pieces (· == separator) text) = text := by
  induction text with
  | nil => rfl
  | cons character rest ih =>
      unfold pieces
      obtain ⟨first, others, cut⟩ := List.exists_cons_of_ne_nil (pieces_ne_nil (· == separator) rest)
      rw [cut] at ih
      by_cases cuts : (character == separator) = true
      · rw [if_pos cuts, cut, joinPieces.eq_3 _ _ _ (List.cons_ne_nil _ _), ih, beq_iff_eq.mp cuts]
        rfl
      · rw [if_neg cuts, cut]
        cases others with
        | nil => exact congrArg (character :: ·) ih
        | cons second more => exact congrArg (character :: ·) ih

end Text

namespace PathFilter

theorem normalize_relative (raw : String) : (normalize raw).toList.head? ≠ some '/' := by
  intro slash
  exact absurd ((normalize_shape raw).1.1 '/' slash) (by decide)

end PathFilter

/-- A name that a path spells as it is. Nothing is found under a name that has a slash or the character
zero, that is too long or that paths use for other steps; names with a backslash and names with blanks
around them may be there, but no glob can spell them. -/
structure PlainName (name : Name) : Prop where
  plain : Path.Plain (.normal name)
  clean : Char.ofNat 0 ∉ name
  short : Text.byteSize name ≤ 255
  forward : '\\' ∉ name
  bare : Text.Bare Text.isBlank name

instance (name : Name) : Decidable (PlainName name) :=
  decidable_of_iff (Component.ofPiece? name = some (.normal name) ∧
      (name.all fun character => !(character == '/')) = true ∧ Char.ofNat 0 ∉ name ∧
      Text.byteSize name ≤ 255 ∧ '\\' ∉ name ∧ Text.Bare Text.isBlank name)
    ⟨fun ⟨piece, whole, clean, short, forward, bare⟩ =>
        ⟨⟨piece, by simpa [Component.text] using whole⟩, clean, short, forward, bare⟩,
      fun named => ⟨named.plain.1, by simpa [Component.text] using named.plain.2, named.clean,
        named.short, named.forward, named.bare⟩⟩

namespace PlainName

variable {name : Name} (named : PlainName name)

include named

theorem piece : Component.ofPiece? name = some (.normal name) :=
  named.plain.1

theorem ne_nil : name ≠ [] := by
  rintro rfl
  exact nomatch named.piece

end PlainName

theorem filterMap_name (names : List Name) :
    (names.map Component.normal).filterMap Component.name? = names := by
  rw [List.filterMap_map]
  exact List.filterMap_some

def shown (names : List Name) : String :=
  String.ofList (Text.joinPieces ['/'] names)

section Shown

variable {names : List Name} (named : ∀ name ∈ names, PlainName name)

include named

theorem pieces_shown (some : names ≠ []) : Text.pieces (· == '/') (shown names).toList = names := by
  rw [shown, String.toList_ofList]
  exact Text.pieces_joinPieces (· == '/') '/' rfl names some fun name member =>
    (named name member).plain.2

theorem filterMap_names : names.filterMap Component.ofPiece? = names.map .normal := by
  induction names with
  | nil => rfl
  | cons name rest ih =>
      obtain ⟨first, others⟩ := List.forall_mem_cons.mp named
      rw [List.filterMap_cons_some first.piece, ih others, List.map_cons]

theorem clean_shown : Char.ofNat 0 ∉ (shown names).toList := by
  rw [shown, String.toList_ofList]
  intro member
  rcases Text.mem_joinPieces '/' names _ member with slash | ⟨name, listed, inside⟩
  · exact absurd slash (by decide)
  · exact (named name listed).clean inside

theorem bare_shown (test : Char → Bool) (bare : ∀ name ∈ names, Text.Bare test name) :
    Text.Bare test (shown names).toList := by
  rw [shown, String.toList_ofList]
  constructor
  · intro first found
    cases names with
    | nil => contradiction
    | cons name rest =>
        obtain ⟨back, whole⟩ := Text.joinPieces_cons '/' name rest
        have written := (named name List.mem_cons_self).ne_nil
        rw [whole, List.head?_append_of_ne_nil _ written] at found
        exact (bare name List.mem_cons_self).1 first found
  · intro last found
    rcases List.eq_nil_or_concat names with rfl | ⟨front, name, rfl⟩
    · contradiction
    · have member : name ∈ front.concat name := by simp
      rw [List.concat_eq_append] at found
      obtain ⟨start, whole⟩ := Text.joinPieces_concat '/' front
      rw [whole, List.getLast?_append_of_ne_nil _ (named name member).ne_nil] at found
      exact (bare name member).2 last found

theorem normalize_shown : PathFilter.normalize (shown names) = shown names := by
  by_cases some : names = []
  · subst some
    rfl
  have pieces := pieces_shown named some
  have proper : ['.'] ∉ names := fun member => nomatch (named _ member).piece
  refine PathFilter.normalize_eq_self_of_compared
    ⟨bare_shown named _ fun name member => (named name member).bare, ?_, ?_, ?_, ?_⟩
  · rintro ⟨rest, dot⟩
    rw [← dot, show ['.', '/'] ++ rest = ['.'] ++ '/' :: rest from rfl,
      Text.pieces_append _ _ _ '/' rfl] at pieces
    exact proper (pieces ▸ List.mem_cons_self)
  · refine bare_shown named _ fun name member => ?_
    have whole := (named name member).plain.2
    exact ⟨fun first found => whole first (List.mem_of_head? found),
      fun last found => whole last (List.mem_of_getLast? found)⟩
  · intro member
    rw [shown, String.toList_ofList] at member
    rcases Text.mem_joinPieces '/' names _ member with slash | ⟨name, listed, inside⟩
    · contradiction
    · exact (named name listed).forward inside
  · intro dot
    rw [dot] at pieces
    exact proper (pieces ▸ List.mem_cons_self)

theorem shown_injective {others : List Name} (named' : ∀ name ∈ others, PlainName name)
    (same : shown names = shown others) : names = others :=
  Path.joinPieces_injective (fun name member => (named name member).plain)
    (fun name member => (named' name member).plain) (String.ofList_injective same)

end Shown

section Joined

variable {start : Path} (written : start.text ≠ "") {names : List Name}
  (named : ∀ name ∈ names, Path.Plain (.normal name))

include written named

theorem Path.descend_components :
    (start.descend names).components = start.components ++ names.map .normal := by
  unfold descend
  induction names generalizing start with
  | nil => exact (List.append_nil _).symm
  | cons name rest ih =>
      obtain ⟨first, others⟩ := List.forall_mem_cons.mp named
      have relative := first.relative
      rw [List.foldl_cons, ih (Path.join_ne_empty written _ relative) others, Path.join_components written _ relative,
        String.toList_ofList, Text.pieces_whole _ name first.2,
        List.filterMap_cons_some (show Component.ofPiece? name = some (.normal name) from first.1),
        List.append_assoc]
      rfl

theorem Path.descend_ne_empty : (start.descend names).text ≠ "" := by
  unfold descend
  induction names generalizing start with
  | nil => exact written
  | cons name rest ih =>
      obtain ⟨first, others⟩ := List.forall_mem_cons.mp named
      exact ih (Path.join_ne_empty written _ first.relative) others

end Joined

end UiContract
