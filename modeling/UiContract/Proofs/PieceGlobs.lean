import Mathlib.Data.List.Forall2
import UiContract.Proofs.ComparedForms
import UiContract.Proofs.FoldedPaths
import UiContract.Proofs.GlobLists
import UiContract.Proofs.LiteralGlobs
import UiContract.Proofs.PlainNames

/-!
Globs and the slashes of a path. A glob without `**`, classes and groups is read character by character,
and none of its parts but a slash asks for the byte of a slash; so it matches piece by piece, and a path
that it matches has as many slashes as it has itself. A directory with `/**` behind it matches what lies
below the directory.
-/
namespace UiContract

namespace Text

theorem slash_mem_encodeChar (character : Char) : 0x2F ∈ encodeChar character ↔ character = '/' := by
  rw [← Char.toNat_inj]
  have bound := code_lt character
  show _ ↔ character.toNat = 0x2F
  unfold encodeChar
  dsimp only
  split_ifs <;> simp only [List.mem_cons, List.not_mem_nil, or_false, ← UInt8.toNat_inj, toNat_toUInt8,
    UInt8.toNat_ofNat] <;> omega

theorem slash_mem_encode (text : List Char) : 0x2F ∈ encode text ↔ '/' ∈ text := by
  unfold encode
  rw [List.mem_flatMap]
  constructor
  · rintro ⟨character, member, inside⟩
    rwa [← (slash_mem_encodeChar character).mp inside]
  · exact fun member => ⟨'/', member, (slash_mem_encodeChar '/').mpr rfl⟩

/-- Bytes that are cut at the byte of a slash are those of a text that is cut at a slash. -/
theorem encode_slash {text : List Char} {front back : List UInt8}
    (same : encode text = front ++ 0x2F :: back) :
    ∃ first rest, text = first ++ '/' :: rest ∧ encode first = front ∧ encode rest = back := by
  induction text generalizing front with
  | nil => simp [encode] at same
  | cons character text ih =>
      rw [encode_cons, List.append_eq_append_iff] at same
      -- Either the bytes of the first character lie in front of the cut, or the cut lies inside them.
      rcases same with ⟨more, rfl, later⟩ | ⟨more, whole, later⟩
      · obtain ⟨first, rest, rfl, rfl, rfl⟩ := ih later
        exact ⟨character :: first, rest, rfl, encode_cons character first, rfl⟩
      · cases more with
        | nil =>
            obtain ⟨first, rest, rfl, none, rfl⟩ := ih (show encode text = [] ++ 0x2F :: back from later.symm)
            rw [List.append_nil] at whole
            exact ⟨character :: first, rest, rfl, by rw [encode_cons, none, whole, List.append_nil], rfl⟩
        | cons byte more =>
            obtain ⟨rfl, rfl⟩ := List.cons.inj later
            obtain rfl := (slash_mem_encodeChar character).mp (whole ▸ by simp)
            obtain ⟨rfl, rfl⟩ : front = [] ∧ more = [] := by
              have room := congrArg List.length (show [0x2F] = front ++ 0x2F :: more from whole)
              simp only [List.length_append, List.length_cons, List.length_nil] at room
              exact ⟨List.length_eq_zero_iff.mp (by omega), List.length_eq_zero_iff.mp (by omega)⟩
            exact ⟨[], text, rfl, rfl, rfl⟩

theorem pieces_unslashed {text : List Char} (bare : '/' ∉ text) : pieces (· == '/') text = [text] :=
  pieces_whole (· == '/') text fun _ member => beq_false_of_ne (ne_of_mem_of_not_mem member bare)

theorem joinPieces_inside (separator : List Char) (parts : List (List Char)) :
    ∀ piece ∈ parts, piece <:+: joinPieces separator parts := by
  induction parts using joinPieces.induct with
  | case1 => exact List.forall_mem_nil _
  | case2 piece =>
      intro other member
      rw [List.mem_singleton.mp member]
      exact List.infix_rfl
  | case3 piece rest more ih =>
      intro other member
      rw [joinPieces.eq_3 _ _ _ more]
      rcases List.mem_cons.mp member with rfl | later
      · rw [List.append_assoc]
        exact (List.prefix_append other _).isInfix
      · exact (ih other later).trans (List.suffix_append _ _).isInfix

theorem length_pieces (text : List Char) : (pieces (· == '/') text).length = text.count '/' + 1 := by
  induction text with
  | nil => rfl
  | cons character rest ih =>
      rw [pieces, List.count_cons]
      split
      · rw [List.length_cons, ih]
      · obtain ⟨first, others, cut⟩ := List.exists_cons_of_ne_nil (pieces_ne_nil (· == '/') rest)
        rw [cut] at ih ⊢
        exact ih

end Text

namespace Glob

/-- A glob whose stars stand alone and that has neither classes nor groups. -/
structure Simple (glob : List Char) : Prop where
  alone : ¬ ['*', '*'] <:+: glob
  unclassed : '[' ∉ glob
  ungrouped : '{' ∉ glob

def simpleToken : Char → Token
  | '?' => .any
  | '*' => .zeroOrMore
  | other => .literal other

def simplePattern (glob : List Char) : Pattern :=
  Pattern.sequence ((glob.map simpleToken).map Token.pattern)

theorem Simple.part {glob part : List Char} (simple : Simple glob) (inside : part <:+: glob) : Simple part :=
  ⟨fun stars => simple.alone (stars.trans inside), fun member => simple.unclassed (inside.subset member),
    fun member => simple.ungrouped (inside.subset member)⟩

theorem simpleToken_plain {character : Char} (plain : ¬ IsWildcard character) :
    simpleToken character = .literal character := by
  unfold simpleToken
  split
  · exact absurd (.inr (.inl rfl)) plain
  · exact absurd (.inl rfl) plain
  · rfl

theorem simpleToken_ne (character : Char) : simpleToken character ≠ .recursiveStart := by
  unfold simpleToken
  split <;> nofun

section Readings

variable (previous : Option Char) (branch : List Token)

/-- Outside of groups a character is read alone unless it opens or closes something or is one of two stars. -/
theorem readParts_alone (character : Char) (rest : List Char) (unclassed : character ≠ '[')
    (ungrouped : character ≠ '{') (unclosed : character ≠ '}')
    (alone : character = '*' → rest.head? ≠ some '*') :
    readParts 0 previous ⟨branch, [], []⟩ (character :: rest) =
      readParts 0 (some character) ⟨simpleToken character :: branch, [], []⟩ rest := by
  conv_lhs => unfold readParts
  rw [if_neg (Nat.lt_irrefl 0)]
  split
  · rfl
  · split
    · exact absurd rfl (alone rfl)
    · rfl
  · contradiction
  · contradiction
  · contradiction
  · rfl
  · rename_i single starred _ _ _ _
    rw [simpleToken]
    · rfl
    · exact single
    · exact starred

theorem readParts_simple (front back : List Char) (simple : Simple front) (unclosed : '}' ∉ front)
    (alone : front.getLast? = some '*' → back.head? ≠ some '*') :
    readParts 0 previous ⟨branch, [], []⟩ (front ++ back) =
      readParts 0 (front.getLast?.or previous) ⟨(front.map simpleToken).reverse ++ branch, [], []⟩ back := by
  induction front generalizing previous branch with
  | nil => rfl
  | cons character front ih =>
      have next : character = '*' → (front ++ back).head? ≠ some '*' := by
        rintro rfl
        cases front with
        | nil => exact alone rfl
        | cons second more =>
            intro same
            obtain rfl := Option.some.inj same
            exact simple.alone ⟨[], more, rfl⟩
      rw [List.cons_append, readParts_alone previous branch character _
        (fun same => simple.unclassed (same ▸ List.mem_cons_self))
        (fun same => simple.ungrouped (same ▸ List.mem_cons_self))
        (fun same => unclosed (same ▸ List.mem_cons_self)) next,
        ih _ _ (simple.part (List.suffix_cons character front).isInfix)
          fun member => unclosed (List.mem_cons_of_mem character member)]
      · rw [List.map_cons, List.reverse_cons, List.append_assoc, List.getLast?_cons]
        cases front.getLast? <;> rfl
      · intro last
        refine alone ?_
        rw [List.getLast?_cons, last]
        rfl

theorem parse_simple {glob : List Char} (simple : Simple glob) :
    parse glob = if '}' ∈ glob then .error .unopenedGroup else .ok (simplePattern glob) := by
  split
  · rename_i closed
    obtain ⟨front, back, rfl, unclosed⟩ := List.eq_append_cons_of_mem closed
    have inside := simple.part (List.prefix_append front ('}' :: back)).isInfix
    have read := readParts_simple none [] front ('}' :: back) inside unclosed fun _ => nofun
    rw [parse, read]
    rfl
  · rename_i unclosed
    have read := readParts_simple none [] glob [] simple unclosed fun _ => nofun
    rw [List.append_nil, List.append_nil] at read
    rw [parse, read]
    dsimp only [readParts]
    rw [if_neg (by simp)]
    split
    · rename_i stars
      have member : Token.recursiveStart ∈ (glob.map simpleToken).reverse := stars ▸ List.mem_cons_self
      obtain ⟨character, -, same⟩ := List.mem_map.mp (List.mem_reverse.mp member)
      exact absurd same (simpleToken_ne character)
    · rw [patternOf, List.reverse_reverse]
      rfl

end Readings

section Pieces

theorem fits_simple_append (front back : List Char) (bytes : List UInt8) :
    (simplePattern (front ++ back)).Fits bytes ↔ ∃ used rest, bytes = used ++ rest ∧
      (simplePattern front).Fits used ∧ (simplePattern back).Fits rest := by
  unfold simplePattern
  rw [List.map_append, List.map_append, Pattern.fits_append]

theorem insidePiece_accepts (value : UInt8) : ByteSet.insidePiece.accepts value = true ↔ value ≠ 0x2F := by
  simp only [ByteSet.accepts, ByteSet.insidePiece, List.any_cons, List.any_nil, Bool.or_false, Bool.bne_true,
    Bool.not_eq_true', Bool.and_eq_false_iff, decide_eq_false_iff_not, ne_eq, ← UInt8.toNat_inj,
    UInt8.le_iff_toNat_le]
  omega

theorem fits_simple_slash (piece : List Char) (whole : '/' ∉ piece) (bytes : List UInt8)
    (fits : (simplePattern piece).Fits bytes) : 0x2F ∉ bytes := by
  induction piece generalizing bytes with
  | nil =>
      obtain rfl : bytes = [] := fits
      exact List.not_mem_nil
  | cons character piece ih =>
      obtain ⟨front, back, rfl, first, others⟩ := (Pattern.fits_cons _ _ _).mp fits
      have later := ih (fun member => whole (List.mem_cons_of_mem _ member)) back others
      suffices here : 0x2F ∉ front from fun member => (List.mem_append.mp member).elim here later
      unfold simpleToken at first
      split at first
      · obtain ⟨value, rfl, inside⟩ := first
        rw [List.mem_singleton]
        exact ((insidePiece_accepts value).mp inside).symm
      · exact fun member => (insidePiece_accepts _).mp (first _ member) rfl
      · rw [(Pattern.fits_exactly _ _).mp first, Text.slash_mem_encodeChar]
        rintro rfl
        exact whole List.mem_cons_self

theorem fits_simple_cut (piece rest : List Char) (bytes : List UInt8) :
    (simplePattern (piece ++ '/' :: rest)).Fits bytes ↔ ∃ front back, bytes = front ++ 0x2F :: back ∧
      (simplePattern piece).Fits front ∧ (simplePattern rest).Fits back := by
  rw [fits_simple_append]
  refine exists_congr fun front => ?_
  constructor
  · rintro ⟨_, rfl, first, slashed⟩
    obtain ⟨slash, back, rfl, one, later⟩ := (Pattern.fits_cons _ _ _).mp slashed
    obtain rfl := (Pattern.fits_exactly (Text.encodeChar '/') slash).mp one
    exact ⟨back, rfl, first, later⟩
  · rintro ⟨back, rfl, first, later⟩
    refine ⟨0x2F :: back, rfl, first, (Pattern.fits_cons _ _ _).mpr ?_⟩
    exact ⟨[0x2F], back, rfl, (Pattern.fits_exactly (Text.encodeChar '/') _).mpr rfl, later⟩

theorem fits_simple_joined (parts : List (List Char)) (some : parts ≠ [])
    (whole : ∀ piece ∈ parts, '/' ∉ piece) (path : List Char) :
    (simplePattern (Text.joinPieces ['/'] parts)).Fits (Text.encode path) ↔
      List.Forall₂ (fun piece part => (simplePattern piece).Fits (Text.encode part)) parts
        (Text.pieces (· == '/') path) := by
  -- What matches one piece has no slash, so it is one piece itself.
  have single : ∀ piece part, '/' ∉ piece → (simplePattern piece).Fits (Text.encode part) →
      Text.pieces (· == '/') part = [part] := by
    intro piece part bare fits
    refine Text.pieces_unslashed fun member => ?_
    exact fits_simple_slash piece bare _ fits ((Text.slash_mem_encode part).mpr member)
  induction parts using Text.joinPieces.induct generalizing path with
  | case1 => contradiction
  | case2 piece =>
      rw [Text.joinPieces]
      constructor
      · intro fits
        rw [single piece path (whole piece List.mem_cons_self) fits]
        exact .cons fits .nil
      · intro each
        obtain ⟨part, others, first, none, cut⟩ := List.forall₂_cons_left_iff.mp each
        obtain rfl := List.forall₂_nil_left_iff.mp none
        rw [← Text.joinPieces_pieces '/' path, cut]
        exact first
  | case3 piece rest more ih =>
      have later := ih more fun other member => whole other (List.mem_cons_of_mem _ member)
      rw [Text.joinPieces.eq_3 _ _ _ more, List.append_assoc, List.singleton_append, fits_simple_cut]
      constructor
      · rintro ⟨front, back, same, first, others⟩
        obtain ⟨start, behind, rfl, rfl, rfl⟩ := Text.encode_slash same
        rw [Text.pieces_append (· == '/') start behind '/' rfl,
          single piece start (whole piece List.mem_cons_self) first]
        exact .cons first ((later behind).mp others)
      · intro each
        obtain ⟨part, others, first, behind, cut⟩ := List.forall₂_cons_left_iff.mp each
        have some : others ≠ [] := by
          rintro rfl
          exact more (List.forall₂_nil_right_iff.mp behind)
        have separated := Text.pieces_separated (· == '/') path
        rw [cut] at separated
        have again := Text.pieces_joinPieces (· == '/') '/' rfl others some fun other member =>
          separated other (List.mem_cons_of_mem part member)
        refine ⟨Text.encode part, Text.encode (Text.joinPieces ['/'] others), ?_, first, ?_⟩
        · rw [← Text.joinPieces_pieces '/' path, cut, Text.joinPieces.eq_3 _ _ _ some, List.append_assoc,
            Text.encode_append, List.singleton_append, Text.encode_cons]
          rfl
        · exact (later _).mpr (by rwa [again])

theorem fits_simple_pieces (glob path : List Char) : (simplePattern glob).Fits (Text.encode path) ↔
    List.Forall₂ (fun piece part => (simplePattern piece).Fits (Text.encode part))
      (Text.pieces (· == '/') glob) (Text.pieces (· == '/') path) := by
  have joined := fits_simple_joined (Text.pieces (· == '/') glob) (Text.pieces_ne_nil _ glob)
    (fun piece member inside => Bool.false_ne_true
      (Text.pieces_separated (· == '/') glob piece member '/' inside).symm) path
  rwa [Text.joinPieces_pieces] at joined

end Pieces

section Directories

theorem fits_below (directory : List Char) (bytes : List UInt8) :
    (patternOf (.recursiveEnd :: literals directory)).Fits bytes ↔
      ∃ rest, bytes = Text.encode (directory ++ ['/']) ++ rest := by
  rw [patternOf, List.reverse_cons, List.map_append, Pattern.fits_append, Text.encode_append]
  constructor
  · rintro ⟨front, _, rfl, spelled, slash, rest, rfl, one, -⟩
    rw [(fits_literals directory front).mp spelled, (Pattern.fits_exactly [0x2F] slash).mp one,
      ← List.append_assoc]
    exact ⟨rest, rfl⟩
  · rintro ⟨rest, rfl⟩
    refine ⟨_, 0x2F :: rest, List.append_assoc .., (fits_literals directory _).mpr rfl, [0x2F], rest, rfl, ?_⟩
    exact ⟨(Pattern.fits_exactly [0x2F] _).mpr rfl, fun _ _ => rfl⟩

variable {directory : List Char} (plain : ∀ character ∈ directory, ¬ IsWildcard character)

include plain

theorem simple_plain : Simple directory where
  alone stars := plain '*' (stars.subset List.mem_cons_self) (.inl rfl)
  unclassed member := plain '[' member (.inr (.inr (.inl rfl)))
  ungrouped member := plain '{' member (.inr (.inr (.inr rfl)))

theorem map_simpleToken : (directory.map simpleToken).reverse = literals directory :=
  congrArg List.reverse (List.map_congr_left fun character member =>
    simpleToken_plain (plain character member))

theorem parse_below (unclosed : '}' ∉ directory) :
    parse (directory ++ "/**".toList) = .ok (patternOf (.recursiveEnd :: literals directory)) := by
  have slashed : ∀ character ∈ directory ++ ['/'], ¬ IsWildcard character := by
    simpa [or_imp, forall_and, IsWildcard] using plain
  have read := readParts_simple none [] (directory ++ ['/']) ['*', '*'] (simple_plain slashed)
    (by simpa using unclosed) (by simp)
  rw [List.append_nil, map_simpleToken slashed, List.append_assoc, List.getLast?_concat] at read
  have whole : readParts 0 none ⟨[], [], []⟩ (directory ++ "/**".toList) =
      .ok ⟨.recursiveEnd :: literals directory, [], []⟩ := by
    refine read.trans ?_
    rw [literals, List.map_append, List.reverse_append]
    rfl
  rw [parse, whole]
  rfl

end Directories

end Glob

theorem PathFilter.Compared.below {directory : List Char} (compared : Compared directory)
    (filled : directory ≠ []) : Compared (directory ++ "/**".toList) := by
  have stars : (directory ++ "/**".toList).getLast? = some '*' := by
    simp [List.getLast?_append]
  obtain ⟨trimmed, begins, unslashed, forward, named⟩ := compared
  obtain ⟨first, rest, rfl⟩ := List.exists_cons_of_ne_nil filled
  refine ⟨⟨trimmed.1, ?_⟩, ?_, ⟨unslashed.1, ?_⟩, ?_, ?_⟩
  · rw [stars]
    rintro _ ⟨⟩
    decide
  · intro dotted
    cases rest with
    | nil =>
        rw [List.cons_append, List.cons_prefix_cons] at dotted
        exact named (congrArg (fun first => [first]) dotted.1.symm)
    | cons second rest =>
        exact begins (List.prefix_of_prefix_length_le dotted (List.prefix_append _ _) (by simp))
  · rw [stars]
    rintro _ ⟨⟩
    decide
  · intro member
    rcases List.mem_append.mp member with inside | behind
    · exact forward inside
    · simp at behind
  · intro dot
    simpa using congrArg List.length dot

namespace PathGlobs

theorem accepts_pieces [Engine] {glob path : String} {globs : PathGlobs} (compiled : compile [glob] = .ok globs)
    (simple : Glob.Simple (PathFilter.normalize glob).toList) : globs.accepts path = true ↔
      PathFilter.normalize glob ≠ "" ∧ List.Forall₂
        (fun piece part => ∃ pattern, Glob.parse piece = .ok pattern ∧
          pattern.accepts (Text.encode part) = true)
        (Text.pieces (· == '/') (PathFilter.normalize glob).toList)
        (Text.pieces (· == '/') (PathFilter.normalize path).toList) := by
  rw [accepts_iff compiled]
  refine and_congr_right fun named => ?_
  have unclosed : '}' ∉ (PathFilter.normalize glob).toList := by
    intro closed
    obtain ⟨pattern, read, -, rfl⟩ := compile_single.mp compiled
    cases pattern with
    | none => exact named ((compileOne_blank read).mp rfl)
    | some pattern =>
        have parsed := ((compileOne_some glob pattern).mp read).2
        rw [Glob.parse_simple simple, if_pos closed] at parsed
        exact nomatch parsed
  have each : ∀ piece ∈ Text.pieces (· == '/') (PathFilter.normalize glob).toList, ∀ part : List Char,
      (∃ pattern, Glob.parse piece = .ok pattern ∧ pattern.accepts (Text.encode part) = true) ↔
        (Glob.simplePattern piece).Fits (Text.encode part) := by
    intro piece member part
    have inside := Text.joinPieces_inside ['/'] _ piece member
    rw [Text.joinPieces_pieces] at inside
    rw [Glob.parse_simple (simple.part inside), if_neg fun closed => unclosed (inside.subset closed)]
    simp [Glob.Pattern.accepts_iff]
  rw [Glob.parse_simple simple, if_neg unclosed]
  simp only [Except.ok.injEq, exists_eq_left']
  rw [Glob.fits_simple_pieces]
  constructor
  · intro all
    exact ((List.forall₂_and_left _ _).mpr ⟨each, all⟩).imp fun piece part both => (both.1 part).mpr both.2
  · intro all
    exact ((List.forall₂_and_left _ _).mpr ⟨each, all⟩).imp fun piece part both => (both.1 part).mp both.2

theorem accepts_count [Engine] {glob path : String} {globs : PathGlobs} (compiled : compile [glob] = .ok globs)
    (simple : Glob.Simple (PathFilter.normalize glob).toList) (accepted : globs.accepts path = true) :
    (PathFilter.normalize path).toList.count '/' = (PathFilter.normalize glob).toList.count '/' := by
  have same := ((accepts_pieces compiled simple).mp accepted).2.length_eq
  rw [Text.length_pieces, Text.length_pieces] at same
  exact (Nat.succ.inj same).symm

/-- A directory with two stars below it matches what lies below it, and nothing else. -/
theorem accepts_below [Engine] {directory : String} (some : directory ≠ "")
    (same : PathFilter.normalize directory = directory)
    (plain : ∀ character ∈ directory.toList, ¬ Glob.IsWildcard character ∧ character ≠ '}') :
    (∃ globs, compile [directory ++ "/**"] = .ok globs ∧ ∀ path, globs.accepts path = true ↔
      ∃ rest, rest ≠ "" ∧ PathFilter.normalize path = directory ++ "/" ++ rest) ∨
    ∃ reason, compile [directory ++ "/**"] = .error (.set reason) := by
  have filled : directory.toList ≠ [] := mt String.toList_eq_nil_iff.mp some
  have compared := ((PathFilter.normalize_eq_self_iff directory).mp same).below filled
  rw [← String.toList_append] at compared
  have kept := PathFilter.normalize_eq_self_of_compared compared
  have parsed := Glob.parse_below (fun character member => (plain character member).1)
    fun closed => (plain _ closed).2 rfl
  rw [← String.toList_append, ← kept] at parsed
  have named : PathFilter.normalize (directory ++ "/**") ≠ "" := by
    rw [kept]
    exact mt String.toList_eq_nil_iff.mpr (by simp [filled])
  refine (compile_single_or ((compileOne_some _ _).mpr ⟨named, parsed⟩)).imp_left fun built =>
    ⟨_, built, fun path => ?_⟩
  simp only [accepts, List.any_cons, List.any_nil, Bool.or_false, Glob.Pattern.accepts_iff, Glob.fits_below]
  constructor
  · rintro ⟨bytes, spelled⟩
    obtain ⟨back, whole, -⟩ := Text.encode_prefix _ _ bytes spelled
    refine ⟨String.ofList back, ?_, ?_⟩
    · intro none
      -- Nothing that is compared ends with a slash.
      refine Bool.false_ne_true ((PathFilter.normalize_shape path).1.2 '/' ?_).symm
      rw [whole, String.ofList_eq_empty_iff.mp none, List.append_nil]
      exact List.getLast?_concat
    · rw [← String.toList_inj, whole]
      simp
  · rintro ⟨rest, -, whole⟩
    refine ⟨Text.encode rest.toList, ?_⟩
    rw [whole, String.toList_append, String.toList_append, Text.encode_append]
    rfl

/-- Wildcards never cross a slash: a glob without `**`, classes and groups matches piece by piece, so what it
matches has as many slashes as it has. The two stars below a directory match all that lies below it, unless the
engine takes no such glob. -/
theorem separators_exact [Engine] :
    (∀ (glob : String) (globs : PathGlobs), compile [glob] = .ok globs →
      Glob.Simple (PathFilter.normalize glob).toList → ∀ path,
        (globs.accepts path = true ↔ PathFilter.normalize glob ≠ "" ∧ List.Forall₂
          (fun piece part => ∃ pattern, Glob.parse piece = .ok pattern ∧
            pattern.accepts (Text.encode part) = true)
          (Text.pieces (· == '/') (PathFilter.normalize glob).toList)
          (Text.pieces (· == '/') (PathFilter.normalize path).toList)) ∧
        (globs.accepts path = true →
          (PathFilter.normalize path).toList.count '/' = (PathFilter.normalize glob).toList.count '/')) ∧
    ∀ directory : String, directory ≠ "" → PathFilter.normalize directory = directory →
      (∀ character ∈ directory.toList, ¬ Glob.IsWildcard character ∧ character ≠ '}') →
      (∃ globs, compile [directory ++ "/**"] = .ok globs ∧ ∀ path, globs.accepts path = true ↔
        ∃ rest, rest ≠ "" ∧ PathFilter.normalize path = directory ++ "/" ++ rest) ∨
      ∃ reason, compile [directory ++ "/**"] = .error (.set reason) :=
  ⟨fun _ _ compiled simple _ => ⟨accepts_pieces compiled simple, accepts_count compiled simple⟩,
    fun _ => accepts_below⟩

section Examples

attribute [local instance] Engine.rough

theorem separators_exact_pages : ∃ globs, compile ["./src/pages/*.tsx"] = .ok globs ∧
    globs.accepts "src/pages/Home.tsx" = true ∧
    (PathFilter.normalize "src/pages/Home.tsx").toList.count '/' =
      (PathFilter.normalize "./src/pages/*.tsx").toList.count '/' ∧
    ∃ below, compile ["src/components/**"] = .ok below ∧
      (below.accepts "./src/components/ui/Button.tsx" = true ↔ ∃ rest, rest ≠ "" ∧
        PathFilter.normalize "./src/components/ui/Button.tsx" = "src/components/" ++ rest) := by
  have simple : Glob.Simple (PathFilter.normalize "./src/pages/*.tsx").toList :=
    ⟨by decide, by decide, by decide⟩
  obtain ⟨globs, compiled, matched⟩ : ∃ globs, compile ["./src/pages/*.tsx"] = .ok globs ∧
      globs.accepts "src/pages/Home.tsx" = true := ⟨_, rfl, by decide⟩
  have known := separators_exact.2 "src/components" (by decide) (by decide) (by simp [Glob.IsWildcard])
  have built : (compile ["src/components/**"]).isOk = true := by decide
  rcases known with ⟨below, read, lies_below⟩ | ⟨reason, refused⟩
  · refine ⟨globs, compiled, matched, ?_, below, read, lies_below _⟩
    exact (separators_exact.1 _ globs compiled simple "src/pages/Home.tsx").2 matched
  · rw [show "src/components" ++ "/**" = "src/components/**" from rfl] at refused
    rw [refused] at built
    contradiction

end Examples

end PathGlobs

end UiContract
