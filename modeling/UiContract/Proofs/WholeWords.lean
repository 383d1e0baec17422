import Mathlib.Algebra.GroupWithZero.Nat
import Mathlib.Data.List.Infix
import UiContract.Checks.Shell
import UiContract.Proofs.CharSets
import UiContract.Proofs.EscapedPatterns
import UiContract.Proofs.ExpressionEnds

/-!
Names that are looked for as whole words, as `wrapper_matcher` does. A text with the names between boundaries
of words is a match exactly when one of them stands in it and no character of words is next to it. No
character of a name means anything else than itself, and of names that begin alike the longer ones are found
too.
-/
namespace UiContract

namespace Regex

namespace Expr

section Ends

variable {expr first second : Expr} {point last : Point}

theorem contains_single (character other : Char) :
    (CharSet.single character).contains other = true ↔ other = character := by
  unfold CharSet.contains CharSet.single CharSet.inRanges
  rw [← Char.toNat_inj]
  split
  · simp only [Bool.false_eq_true, false_iff]
    omega
  · simp only [CharSet.inRanges, Bool.or_false, decide_eq_true_eq]
    omega

theorem mem_ends_ofCharacter {character : Char} : last ∈ (ofCharacter character).ends point ↔
    ∃ rest, point.rest = character :: rest ∧ last = ⟨some character, rest⟩ := by
  rw [ofCharacter, ends]
  split
  · simp_all
  · rename_i other rest ahead
    rw [ahead]
    split
    · rename_i held
      rw [(contains_single character other).mp held]
      simp
    · rename_i missed
      have apart : other ≠ character := fun same =>
        missed ((contains_single character other).mpr same)
      simp [apart]

theorem mem_ends_ofSequence {others : List Expr} : last ∈ (ofSequence (first :: others)).ends point ↔
    ∃ middle ∈ first.ends point, last ∈ (ofSequence others).ends middle := by
  cases others with
  | nil => simp [ofSequence, ends]
  | cons next more => exact mem_ends_seq

theorem mem_ends_ofSequence_nil : last ∈ (ofSequence []).ends point ↔ last = point := by
  rw [ofSequence, ends, List.mem_singleton]

theorem mem_ends_ofOptions {options : List Expr} :
    last ∈ (ofOptions options).ends point ↔ ∃ option ∈ options, last ∈ option.ends point := by
  induction options with
  | nil =>
      rw [ofOptions, ends]
      split <;> simp [CharSet.contains, CharSet.empty, CharSet.inRanges]
  | cons first others ih =>
      cases others with
      | nil => simp [ofOptions]
      | cons next more =>
          rw [ofOptions.eq_3 _ _ (List.cons_ne_nil _ _), mem_ends_either, ih]
          simp

theorem mem_ends_ofText {word : List Char} : last ∈ (ofText word).ends point ↔
    ∃ rest, point.rest = word ++ rest ∧ last = ⟨word.getLast?.or point.before, rest⟩ := by
  unfold ofText
  induction word generalizing point with
  | nil => simp [ofSequence, ends]
  | cons character more ih =>
      rw [List.map_cons, mem_ends_ofSequence]
      constructor
      · rintro ⟨middle, here, behind⟩
        obtain ⟨rest, ahead, rfl⟩ := mem_ends_ofCharacter.mp here
        obtain ⟨after, rfl, rfl⟩ := ih.mp behind
        exact ⟨after, ahead, by rw [getLast_cons_or]⟩
      · rintro ⟨after, ahead, same⟩
        rw [getLast_cons_or] at same
        exact ⟨⟨some character, more ++ after⟩, mem_ends_ofCharacter.mpr ⟨_, ahead, rfl⟩,
          ih.mpr ⟨after, rfl, same⟩⟩

/-- An expression occurs in a text where an occurrence begins behind some part of it. -/
theorem occursFrom_iff {before : Option Char} {text : List Char} :
    expr.occursFrom before text = true ↔ ∃ front back last, text = front ++ back ∧
      last ∈ expr.ends ⟨front.getLast?.or before, back⟩ := by
  have here (point : Point) : (!(expr.ends point).isEmpty) = true ↔ ∃ last, last ∈ expr.ends point := by
    rw [Bool.not_eq_true', List.isEmpty_eq_false_iff_exists_mem]
  induction text generalizing before with
  | nil =>
      rw [occursFrom, here]
      constructor
      · rintro ⟨last, found⟩
        exact ⟨[], [], last, rfl, found⟩
      · rintro ⟨front, back, last, none, found⟩
        obtain ⟨rfl, rfl⟩ := List.append_eq_nil_iff.mp none.symm
        exact ⟨last, found⟩
  | cons character rest ih =>
      rw [occursFrom, Bool.or_eq_true, here]
      constructor
      · rintro (⟨last, found⟩ | later)
        · exact ⟨[], character :: rest, last, rfl, found⟩
        · obtain ⟨front, back, last, rfl, found⟩ := ih.mp later
          rw [← getLast_cons_or character front before] at found
          exact ⟨character :: front, back, last, rfl, found⟩
      · rintro ⟨front, back, last, whole, found⟩
        cases front with
        | nil =>
            obtain rfl : character :: rest = back := whole
            exact .inl ⟨last, found⟩
        | cons first more =>
            obtain ⟨rfl, rfl⟩ := List.cons.inj whole
            rw [getLast_cons_or] at found
            exact .inr (ih.mpr ⟨more, back, last, rfl, found⟩)

end Ends

end Expr

section Words

def Worded (word : List Char) : Prop :=
  (∃ first ∈ word.head?, isWordCharacter true first = true) ∧
    ∃ last ∈ word.getLast?, isWordCharacter true last = true

/-- A word stands somewhere in a text, and no character of words is next to it. -/
def StandsIn (word text : List Char) : Prop :=
  ∃ before after, text = before ++ word ++ after ∧
    (∀ character ∈ before.getLast?, isWordCharacter true character = false) ∧
    ∀ character ∈ after.head?, isWordCharacter true character = false

def inWordSets (character : Char) : Bool := Unicode.wordSets.any (·.contains character)

theorem isWordCharacter_unicode : isWordCharacter true = inWordSets :=
  funext Unicode.contains_wordCharacters

instance (word : List Char) : Decidable (Worded word) :=
  decidable_of_iff (word.head?.any inWordSets = true ∧ word.getLast?.any inWordSets = true)
    (by simp only [Worded, isWordCharacter_unicode, Option.any_eq_true, Option.mem_def])

instance (word text : List Char) : Decidable (StandsIn word text) :=
  decidable_of_iff
    (∃ before ∈ text.inits, ∃ after ∈ text.tails, text = before ++ word ++ after ∧
      before.getLast?.any inWordSets = false ∧ after.head?.any inWordSets = false) <| by
    simp only [StandsIn, isWordCharacter_unicode, Option.any_eq_false, Option.mem_def]
    constructor
    · rintro ⟨before, -, after, -, stands⟩
      exact ⟨before, after, stands⟩
    · rintro ⟨before, after, rfl, apart⟩
      refine ⟨before, (List.mem_inits _ _).mpr ?_, after, (List.mem_tails _ _).mpr ?_, rfl, apart⟩
      · rw [List.append_assoc]
        exact List.prefix_append _ _
      · exact List.suffix_append _ _

variable {texts : List String} {text : List Char}

/-- A position lies between words where a character of words stands on one side of it only. -/
theorem boundary_holds (point : Point) : (Look.word .boundary true).holds point = true ↔
    point.before.any (isWordCharacter true) ≠ point.rest.head?.any (isWordCharacter true) :=
  bne_iff_ne

theorem boundaries_iff {word before after : List Char} (worded : Worded word) :
    ((Look.word .boundary true).holds ⟨before.getLast?, word ++ after⟩ = true ∧
      (Look.word .boundary true).holds ⟨word.getLast?.or before.getLast?, after⟩ = true) ↔
    (∀ character ∈ before.getLast?, isWordCharacter true character = false) ∧
      ∀ character ∈ after.head?, isWordCharacter true character = false := by
  obtain ⟨⟨first, begins, opening⟩, last, ends, closing⟩ := worded
  rw [Option.mem_def] at begins ends
  rw [boundary_holds, boundary_holds, List.head?_append, begins, ends]
  simp [opening, closing, Option.any_eq_false]

/-- An occurrence of one of some words ends behind it, between two boundaries. -/
theorem mem_ends_wholeWordExpr {point last : Point} : last ∈ (wholeWordExpr texts).ends point ↔
    ∃ word ∈ texts, ∃ rest, point.rest = word.toList ++ rest ∧
      last = ⟨word.toList.getLast?.or point.before, rest⟩ ∧
      (Look.word .boundary true).holds point = true ∧
      (Look.word .boundary true).holds last = true := by
  unfold wholeWordExpr
  simp only [Expr.mem_ends_ofSequence, Expr.mem_ends_ofSequence_nil, Expr.mem_ends_look,
    Expr.mem_ends_ofOptions, List.mem_map, exists_exists_and_eq_and, Expr.mem_ends_ofText]
  constructor
  · rintro ⟨start, ⟨first, opens⟩, middle, ⟨word, listed, rest, ahead, behind⟩, final,
      ⟨second, closes⟩, third⟩
    subst first second third
    exact ⟨word, listed, rest, ahead, behind, opens, closes⟩
  · rintro ⟨word, listed, rest, ahead, rfl, opens, closes⟩
    exact ⟨point, ⟨rfl, opens⟩, _, ⟨word, listed, rest, ahead, rfl⟩, _, ⟨rfl, closes⟩, rfl⟩

/-- One of some words between boundaries occurs in a text where it stands in it. -/
theorem wholeWordExpr_occursIn (worded : ∀ word ∈ texts, Worded word.toList) :
    (wholeWordExpr texts).occursIn text = true ↔ ∃ word ∈ texts, StandsIn word.toList text := by
  unfold Expr.occursIn
  rw [Expr.occursFrom_iff]
  simp only [mem_ends_wholeWordExpr, Option.or_none]
  constructor
  · rintro ⟨before, -, -, rfl, word, listed, after, rfl, rfl, opens, closes⟩
    exact ⟨word, listed, before, after, (List.append_assoc _ _ _).symm,
      (boundaries_iff (worded word listed)).mp ⟨opens, closes⟩⟩
  · rintro ⟨word, listed, before, after, rfl, apart⟩
    obtain ⟨opens, closes⟩ := (boundaries_iff (worded word listed)).mpr apart
    exact ⟨before, _, _, List.append_assoc _ _ _, word, listed, after, rfl, rfl, opens, closes⟩

end Words

end Regex

open Regex

/-- The pattern of the wrappers is read as what the check looks for, whatever characters the names
have, and nothing but its size can keep it from being used. A text is a match exactly when one of the
names stands in it as a whole word. -/
theorem wrapperRegex_words [Engine] {wrappers : List String} (given : wrappers ≠ [])
    (worded : ∀ name ∈ wrappers, Worded (Text.trim name).toList) :
    let names := wrappers.map Text.trim
    Regex.compile (wholeWordPattern names) = wrapperRegex wrappers ∧
      (Engine.fits (wholeWordPattern names) (wholeWordExpr names) = true →
        ∃ wrapper, wrapperRegex wrappers = .ok wrapper ∧ ∀ text,
          wrapper.isMatch text = true ↔ ∃ name ∈ names, StandsIn name.toList text.toList) ∧
      (Engine.fits (wholeWordPattern names) (wholeWordExpr names) = false →
        wrapperRegex wrappers = .error .tooLarge) := by
  intro names
  obtain ⟨first, others, rfl⟩ := List.exists_cons_of_ne_nil given
  have made : wrapperRegex (first :: others) = ofExpr (wholeWordPattern names) (wholeWordExpr names) := rfl
  refine ⟨compile_wholeWordPattern names, fun fits => ?_, fun large => ?_⟩
  · rw [made, ofExpr, if_pos fits]
    refine ⟨_, rfl, fun text => wholeWordExpr_occursIn fun name listed => ?_⟩
    obtain ⟨written, member, rfl⟩ := List.mem_map.mp listed
    exact worded written member
  · rw [made, ofExpr, if_neg (Bool.eq_false_iff.mp large)]

def likeNames : List String := ["Page", "PageShell", " Page.Tile "]

section Examples

attribute [local instance] Engine.rough

/-- The longer name is found where the shorter one is not, and the dot stands for no other character. -/
theorem wrapperRegex_words_alike : likeNames ≠ [] ∧
    (∀ name ∈ likeNames, Worded (Text.trim name).toList) ∧
    ∃ wrapper, wrapperRegex likeNames = .ok wrapper ∧
      Regex.compile "\\b(?:Page|PageShell|Page\\.Tile)\\b" = .ok wrapper ∧
      wrapper.isMatch "<PageShell/>" = true ∧ wrapper.isMatch "<PagexTile/>" = false := by
  have given : likeNames ≠ [] := List.cons_ne_nil _ _
  have worded : ∀ name ∈ likeNames, Worded (Text.trim name).toList := by decide
  have trimmed : likeNames.map Text.trim = ["Page", "PageShell", "Page.Tile"] := by decide
  have pattern : wholeWordPattern ["Page", "PageShell", "Page.Tile"] =
      "\\b(?:Page|PageShell|Page\\.Tile)\\b" := by decide
  have together := wrapperRegex_words given worded
  dsimp only at together
  rw [trimmed, pattern] at together
  obtain ⟨compiled, usable, -⟩ := together
  obtain ⟨wrapper, made, found⟩ := usable (by decide)
  refine ⟨given, worded, wrapper, made, compiled.trans made, (found _).mpr (by decide), ?_⟩
  rw [← Bool.not_eq_true, found]
  decide

end Examples

end UiContract
