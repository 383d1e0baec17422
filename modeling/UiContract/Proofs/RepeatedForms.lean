import UiContract.Proofs.PieceGlobs

/-!
Bringing a text to the compared form twice. A set of globs that is asked about the compared form of a path
brings it to that form once more; if this changes the path, some glob tells the two apart, namely the one
with the slashes of the path and a wildcard for each of its other bytes.
-/
namespace UiContract

theorem Text.encode_eq_nil {text : List Char} (none : encode text = []) : text = [] :=
  encode_injective none

namespace Glob

def outline (bytes : List UInt8) : List Char :=
  bytes.map fun byte => if byte = 0x2F then '/' else '?'

variable (bytes : List UInt8)

theorem mem_outline {character : Char} (member : character ∈ outline bytes) :
    character = '/' ∨ character = '?' := by
  obtain ⟨byte, -, rfl⟩ := List.mem_map.mp member
  split
  · exact .inl rfl
  · exact .inr rfl

theorem parse_outline : parse (outline bytes) = .ok (simplePattern (outline bytes)) := by
  have absent : ∀ character, character ≠ '/' → character ≠ '?' → character ∉ outline bytes :=
    fun character slash wild member => (mem_outline bytes member).elim slash wild
  have simple : Simple (outline bytes) :=
    ⟨fun stars => absent '*' (by decide) (by decide) (stars.subset List.mem_cons_self),
      absent '[' (by decide) (by decide), absent '{' (by decide) (by decide)⟩
  rw [parse_simple simple, if_neg (absent '}' (by decide) (by decide))]

/-- The outline of some bytes matches those that have slashes in the same places. -/
theorem fits_outline (others : List UInt8) : (simplePattern (outline bytes)).Fits others ↔
    List.Forall₂ (fun byte other => byte = 0x2F ↔ other = 0x2F) bytes others := by
  induction bytes generalizing others with
  | nil =>
      rw [List.forall₂_nil_left_iff]
      rfl
  | cons byte bytes ih =>
      have first : ∀ front : List UInt8, (simpleToken (if byte = 0x2F then '/' else '?')).pattern.Fits front ↔
          ∃ other, front = [other] ∧ (byte = 0x2F ↔ other = 0x2F) := by
        intro front
        split
        · rename_i slash
          refine (Pattern.fits_exactly [0x2F] front).trans ?_
          simp [slash]
        · rename_i apart
          refine exists_congr fun other => and_congr_right fun _ => ?_
          rw [insidePiece_accepts]
          simp [apart]
      have cut := Pattern.fits_cons (simpleToken (if byte = 0x2F then '/' else '?')).pattern
        (((outline bytes).map simpleToken).map Token.pattern) others
      rw [List.forall₂_cons_left_iff]
      refine cut.trans ?_
      constructor
      · rintro ⟨front, back, rfl, here, later⟩
        obtain ⟨other, rfl, same⟩ := (first front).mp here
        exact ⟨other, back, same, (ih back).mp later, rfl⟩
      · rintro ⟨other, back, same, later, rfl⟩
        exact ⟨[other], back, rfl, (first _).mpr ⟨other, rfl, same⟩, (ih back).mpr later⟩

end Glob

namespace PathFilter

/-- The outline of a text without slashes at its ends is in the compared form. -/
theorem compared_outline {text : List Char} (unslashed : Text.Bare (· == '/') text) :
    Compared (Glob.outline (Text.encode text)) := by
  have solid : ∀ character ∈ Glob.outline (Text.encode text), Text.isBlank character = false := by
    intro character member
    rcases Glob.mem_outline _ member with rfl | rfl <;> decide
  have absent : ∀ character, character ≠ '/' → character ≠ '?' →
      character ∉ Glob.outline (Text.encode text) :=
    fun character slash wild member => (Glob.mem_outline _ member).elim slash wild
  refine ⟨⟨fun first found => solid first (List.mem_of_mem_head? found),
    fun last found => solid last (List.mem_of_mem_getLast? found)⟩,
    fun dotted => absent '.' (by decide) (by decide) (dotted.subset List.mem_cons_self), ⟨?_, ?_⟩,
    absent '\\' (by decide) (by decide), fun dot => absent '.' (by decide) (by decide) (by simp [dot])⟩
  · intro first found
    rw [Glob.outline, List.head?_map] at found
    obtain ⟨byte, front, rfl⟩ := Option.map_eq_some_iff.mp found
    split
    · rename_i slash
      subst slash
      obtain ⟨back, whole⟩ := List.head?_eq_some_iff.mp front
      obtain ⟨start, rest, rfl, none, -⟩ := Text.encode_slash (whole.trans (List.nil_append _).symm)
      obtain rfl := Text.encode_eq_nil none
      exact unslashed.1 '/' rfl
    · rfl
  · intro last found
    rw [Glob.outline, List.getLast?_map] at found
    obtain ⟨byte, behind, rfl⟩ := Option.map_eq_some_iff.mp found
    split
    · rename_i slash
      subst slash
      obtain ⟨front, whole⟩ := List.getLast?_eq_some_iff.mp behind
      obtain ⟨start, rest, rfl, -, none⟩ := Text.encode_slash whole
      obtain rfl := Text.encode_eq_nil none
      exact unslashed.2 '/' List.getLast?_concat
    · rfl

theorem normalize_eq_of_length {text : String} (forward : '\\' ∉ text.toList)
    (same : (Text.encode (normalize text).toList).length = (Text.encode text.toList).length) :
    normalize text = text := by
  -- Both ends that are taken off are empty, since the bytes of all three parts add up to those of the text.
  obtain ⟨front, back, whole⟩ := normalize_inside forward
  have room := congrArg (fun characters => (Text.encode characters).length) whole
  simp only [Text.encode_append, List.length_append] at room
  obtain rfl := Text.encode_eq_nil (List.length_eq_zero_iff.mp (show (Text.encode front).length = 0 by omega))
  obtain rfl := Text.encode_eq_nil (List.length_eq_zero_iff.mp (show (Text.encode back).length = 0 by omega))
  rw [List.nil_append, List.append_nil] at whole
  exact String.toList_inj.mp whole

end PathFilter

namespace PathGlobs

/-- The outline of a text is a glob for the paths whose compared form has slashes in the same places. -/
theorem accepts_outline [Engine] (builds : ∀ patterns, Builds patterns) {text : List Char}
    (filled : text ≠ []) (unslashed : Text.Bare (· == '/') text) :
    ∃ globs, compile [String.ofList (Glob.outline (Text.encode text))] = .ok globs ∧ ∀ path,
      globs.accepts path = true ↔ List.Forall₂ (fun byte other => byte = 0x2F ↔ other = 0x2F)
        (Text.encode text) (Text.encode (PathFilter.normalize path).toList) := by
  have compared := PathFilter.compared_outline unslashed
  rw [← String.toList_ofList (l := Glob.outline _)] at compared
  have kept := PathFilter.normalize_eq_self_of_compared compared
  have parsed := Glob.parse_outline (Text.encode text)
  rw [← String.toList_ofList (l := Glob.outline _), ← kept] at parsed
  have named : PathFilter.normalize (String.ofList (Glob.outline (Text.encode text))) ≠ "" := by
    rw [kept, ne_eq, String.ofList_eq_empty_iff, Glob.outline, List.map_eq_nil_iff]
    exact fun none => filled (Text.encode_eq_nil none)
  refine ⟨⟨[_]⟩, compile_single.mpr ⟨_, (compileOne_some _ _).mpr ⟨named, parsed⟩, builds _, rfl⟩,
    fun path => ?_⟩
  simp only [accepts, List.any_cons, List.any_nil, Bool.or_false, Glob.Pattern.accepts_iff]
  rw [kept, String.toList_ofList]
  exact Glob.fits_outline _ _

/-- All sets of globs take a path and its compared form for the same just when that form stays as it is. -/
theorem accepts_normalize_iff (raw : String) :
    (∀ [Engine] patterns globs, compile patterns = .ok globs →
      globs.accepts (PathFilter.normalize raw) = globs.accepts raw) ↔
      PathFilter.normalize (PathFilter.normalize raw) = PathFilter.normalize raw := by
  constructor
  · intro alike
    obtain ⟨unslashed, forward, -⟩ := PathFilter.normalize_shape raw
    by_cases blank : PathFilter.normalize raw = ""
    · rw [blank]
      decide
    · -- An engine that takes all sets of globs takes the outline.
      let _ := Engine.rough
      obtain ⟨globs, compiled, matched⟩ :=
        accepts_outline (fun _ => .inr rfl) (mt String.toList_eq_nil_iff.mp blank) unslashed
      -- The outline matches the path itself, so it matches the compared form, which thus loses no byte.
      have itself := (matched raw).mpr (List.forall₂_same.mpr fun byte _ => Iff.rfl)
      rw [← alike _ globs compiled, matched] at itself
      exact PathFilter.normalize_eq_of_length forward itself.length_eq.symm
  · intro same _ patterns globs _
    unfold accepts
    rw [same]

end PathGlobs

/-- What the compared form of a text always is, and when it is the same for its own compared form: just where
no blank and no `./` is left at its ends, just where all sets of globs take both for the same path, and for
every text without blanks next to a slash and without a `.` between two of them. -/
theorem PathFilter.normalize_exact (raw : String) :
    (Text.Bare (· == '/') (normalize raw).toList ∧ '\\' ∉ (normalize raw).toList ∧ normalize raw ≠ ".") ∧
    (normalize (normalize raw) = normalize raw ↔
      Text.Bare Text.isBlank (normalize raw).toList ∧ ¬ ['.', '/'] <+: (normalize raw).toList) ∧
    (normalize (normalize raw) = normalize raw ↔ ∀ [Engine] patterns globs,
      PathGlobs.compile patterns = .ok globs →
        globs.accepts (normalize raw) = globs.accepts raw) ∧
    (Tight (slashed raw) → normalize (normalize raw) = normalize raw) := by
  obtain ⟨unslashed, forward, named⟩ := normalize_shape raw
  refine ⟨⟨unslashed, forward, fun dot => named ?_⟩, normalize_twice_iff raw,
    (PathGlobs.accepts_normalize_iff raw).symm, fun tight => ?_⟩
  · rw [dot]
    rfl
  · exact normalize_eq_self_of_compared (compared_of_tight tight)

theorem PathFilter.normalize_exact_pages : Tight (slashed " ./src\\pages/ ") ∧
    normalize (normalize " ./src\\pages/ ") = normalize " ./src\\pages/ " := by
  have solid : (slashed " ./src\\pages/ ").any Text.isBlank = false := by decide
  have apart : ∀ part : List Char, part <:+: slashed " ./src\\pages/ " →
      ∀ character ∈ part, Text.isBlank character ≠ true :=
    fun part inside character member => List.any_eq_false.mp solid character (inside.subset member)
  have tight : Tight (slashed " ./src\\pages/ ") :=
    ⟨fun character blank inside => apart _ inside character (by simp) blank,
      fun character blank inside => apart _ inside character (by simp) blank, by decide⟩
  exact ⟨tight, (normalize_exact " ./src\\pages/ ").2.2.2 tight⟩

section Examples

attribute [local instance] Engine.rough

/-- A slash in front hides what stands behind it from the trims that were made before. -/
theorem PathFilter.normalize_once : normalize "/./a" = "./a" ∧ normalize (normalize "/./a") = "a" ∧
    normalize "./ a" = " a" ∧ normalize "a /" = "a " ∧
    ∃ globs, PathGlobs.compile ["a"] = .ok globs ∧ globs.accepts "/./a" = false ∧
      globs.accepts (normalize "/./a") = true := by
  refine ⟨by decide, by decide, by decide, by decide, _, rfl, by decide, by decide⟩

end Examples

end UiContract
