import Mathlib.Data.List.Induction
import UiContract.Proofs.Paths

/-!
What folding `.` and `..` leaves, as `normalize_path` does. A folded path names the steps that it was folded
to, so folding a path before something is joined to it changes nothing once the whole is folded.
-/
namespace UiContract

namespace Text

variable (separates : Char → Bool)

theorem pieces_separated (characters : List Char) :
    ∀ piece ∈ pieces separates characters, ∀ character ∈ piece, separates character = false := by
  induction characters with
  | nil => simp [pieces]
  | cons first rest ih =>
      unfold pieces
      by_cases cuts : separates first = true
      · rw [if_pos cuts]
        intro piece member
        rcases List.mem_cons.mp member with rfl | later
        · simp
        · exact ih piece later
      · rw [if_neg cuts]
        split
        · simpa using cuts
        · rename_i head others started
          rw [started] at ih
          intro piece member
          rcases List.mem_cons.mp member with rfl | later
          · intro character inside
            rcases List.mem_cons.mp inside with rfl | inHead
            · simpa using cuts
            · exact ih head List.mem_cons_self character inHead
          · exact ih piece (List.mem_cons_of_mem head later)

theorem pieces_joinPieces (separator : Char) (cuts : separates separator = true)
    (parts : List (List Char)) (some : parts ≠ [])
    (whole : ∀ piece ∈ parts, ∀ character ∈ piece, separates character = false) :
    pieces separates (joinPieces [separator] parts) = parts := by
  induction parts using joinPieces.induct with
  | case1 => contradiction
  | case2 piece => exact pieces_whole separates piece (whole piece List.mem_cons_self)
  | case3 piece rest more ih =>
      rw [joinPieces]
      · rw [List.append_assoc, List.singleton_append, pieces_append separates _ _ _ cuts,
          pieces_whole separates piece (whole piece List.mem_cons_self), ih more]
        · rfl
        · exact fun other member => whole other (List.mem_cons_of_mem piece member)
      · exact more

end Text

namespace Path

def Plain (step : Component) : Prop :=
  Component.ofPiece? step.text = some step ∧
    ∀ character ∈ step.text, (character == '/') = false

theorem Plain.relative {name : List Char} (plain : Plain (.normal name)) :
    (String.ofList name).toList.head? ≠ some '/' := by
  rw [String.toList_ofList]
  intro slash
  exact absurd (plain.2 '/' (List.mem_of_head? slash)) (by decide)

def Tidy (steps : List Component) : Prop :=
  ∃ rest, (∀ step ∈ rest, Plain step) ∧ (steps = rest ∨ steps = .root :: rest)

theorem plain_of_piece (piece : List Char) (step : Component)
    (read : Component.ofPiece? piece = some step)
    (whole : ∀ character ∈ piece, (character == '/') = false) : Plain step := by
  unfold Plain
  rw [text_of_piece read]
  exact ⟨read, whole⟩

theorem solid_tidy (path : Path) : Tidy path.solid := by
  refine ⟨(Text.pieces (· == '/') path.text.toList).filterMap Component.ofPiece?, ?_, ?_⟩
  · intro step member
    obtain ⟨piece, inside, read⟩ := List.mem_filterMap.mp member
    exact plain_of_piece piece step read (Text.pieces_separated (· == '/') _ piece inside)
  · unfold solid solidOf
    split
    · exact .inr rfl
    · exact .inl rfl

theorem filterMap_text (steps : List Component) (plain : ∀ step ∈ steps, Plain step) :
    (steps.map Component.text).filterMap Component.ofPiece? = steps := by
  induction steps with
  | nil => rfl
  | cons step rest ih =>
      rw [List.map_cons, List.filterMap_cons_some (plain step List.mem_cons_self).1,
        ih fun other member => plain other (List.mem_cons_of_mem step member)]

theorem textOf_plain (steps : List Component) (plain : ∀ step ∈ steps, Plain step) :
    textOf steps = Text.joinPieces ['/'] (steps.map Component.text) := by
  cases steps with
  | nil => rfl
  | cons first others =>
      cases first with
      | root => exact absurd (plain .root List.mem_cons_self).1 (by decide)
      | current => rfl
      | parent => rfl
      | normal name => rfl

theorem pieces_texts (steps : List Component) (plain : ∀ step ∈ steps, Plain step)
    (some : steps ≠ []) :
    Text.pieces (· == '/') (Text.joinPieces ['/'] (steps.map Component.text)) =
      steps.map Component.text := by
  refine Text.pieces_joinPieces (· == '/') '/' rfl _ (by simpa using some) fun piece member => ?_
  obtain ⟨step, inside, rfl⟩ := List.mem_map.mp member
  exact (plain step inside).2

theorem joinPieces_injective {names others : List (List Char)}
    (plain : ∀ name ∈ names, Plain (.normal name)) (plain' : ∀ name ∈ others, Plain (.normal name))
    (same : Text.joinPieces ['/'] names = Text.joinPieces ['/'] others) : names = others := by
  have cut : ∀ row : List (List Char), (∀ name ∈ row, Plain (.normal name)) →
      Text.pieces (· == '/') (Text.joinPieces ['/'] row) = if row = [] then [[]] else row := by
    intro row solid
    split
    · rename_i none
      rw [none]
      rfl
    · rename_i some
      exact Text.pieces_joinPieces (· == '/') '/' rfl row some fun name member => (solid name member).2
  have blank : ∀ row : List (List Char), (∀ name ∈ row, Plain (.normal name)) → row ≠ [[]] := by
    rintro row solid rfl
    exact nomatch (solid [] List.mem_cons_self).1
  have pieces := (cut names plain).symm.trans ((congrArg (Text.pieces (· == '/')) same).trans
    (cut others plain'))
  split at pieces
  · rename_i none
    split at pieces
    · rename_i none'
      rw [none, none']
    · exact absurd pieces.symm (blank others plain')
  · split at pieces
    · exact absurd pieces (blank names plain)
    · exact pieces

theorem solid_textOf (steps : List Component) (tidy : Tidy steps) :
    solidOf (textOf steps) = steps := by
  obtain ⟨rest, plain, shape⟩ := tidy
  have cut : rest ≠ [] → (Text.pieces (· == '/') (Text.joinPieces ['/'] (rest.map Component.text))).filterMap
      Component.ofPiece? = rest := by
    intro occupied
    rw [pieces_texts rest plain occupied, filterMap_text rest plain]
  rcases shape with same | same
  · rw [same]
    cases rest with
    | nil => rfl
    | cons first others =>
        -- The first step is written with a character that is no slash.
        have inside : (Text.joinPieces ['/'] ((first :: others).map Component.text)).head? ≠
            some '/' := by
          obtain ⟨read, whole⟩ := plain first List.mem_cons_self
          obtain ⟨front, back, text⟩ : ∃ front back, first.text = front :: back := by
            cases text : first.text with
            | nil => rw [text] at read; contradiction
            | cons front back => exact ⟨front, back, rfl⟩
          have apart : front ≠ '/' := by
            rintro rfl
            have := whole '/' (by rw [text]; exact List.mem_cons_self)
            contradiction
          cases others with
          | nil => simpa [Text.joinPieces, text] using apart
          | cons second more => simpa [Text.joinPieces, text] using apart
        rw [textOf_plain _ plain, solidOf, if_neg inside, List.nil_append,
          cut (List.cons_ne_nil _ _)]
  · rw [same, textOf, solidOf, List.head?_cons, if_pos rfl, Text.pieces,
      if_pos (beq_self_eq_true '/')]
    cases rest with
    | nil => rfl
    | cons first others => exact congrArg (Component.root :: ·) (cut (List.cons_ne_nil _ _))

theorem leading_textOf (steps : List Component) (tidy : Tidy steps) :
    leading (textOf steps) = [] := by
  obtain ⟨rest, plain, shape⟩ := tidy
  refine if_neg fun dot => ?_
  rcases shape with rfl | rfl
  · cases steps with
    | nil => contradiction
    | cons first others =>
        rw [textOf_plain _ plain, pieces_texts _ plain (List.cons_ne_nil _ _)] at dot
        have read := (plain first List.mem_cons_self).1
        rw [Option.some.inj dot] at read
        contradiction
  · rw [textOf, Text.pieces, if_pos (beq_self_eq_true '/')] at dot
    exact List.cons_ne_nil _ _ (Option.some.inj dot).symm

theorem foldStep_tidy (folded : List Component) (tidy : Tidy folded.reverse) (step : Component)
    (plain : Plain step) : Tidy (foldStep folded step).reverse := by
  have push : Tidy (step :: folded).reverse := by
    obtain ⟨rest, below, shape⟩ := tidy
    refine ⟨rest ++ [step], ?_, ?_⟩
    · intro other member
      rcases List.mem_append.mp member with old | new
      · exact below other old
      · rw [List.mem_singleton.mp new]
        exact plain
    · rw [List.reverse_cons]
      rcases shape with same | same
      · exact .inl (by rw [same])
      · exact .inr (by rw [same, List.cons_append])
  cases step with
  | root => exact push
  | normal name => exact push
  | current => exact tidy
  | parent =>
      cases folded with
      | nil => exact push
      | cons top rest =>
          cases top with
          | root => exact tidy
          | current => exact tidy
          | parent => exact push
          | normal name =>
              obtain ⟨steps, below, shape⟩ := tidy
              rw [List.reverse_cons] at shape
              show Tidy rest.reverse
              rcases shape with same | same
              · refine ⟨rest.reverse, fun step member => below step ?_, .inl rfl⟩
                rw [← same]
                exact List.mem_append_left _ member
              · cases reversed : rest.reverse with
                | nil => exact ⟨[], by simp, .inl rfl⟩
                | cons first others =>
                    rw [reversed, List.cons_append] at same
                    injection same with front back
                    refine ⟨others, fun step member => below step ?_, .inr (by rw [front])⟩
                    rw [← back]
                    exact List.mem_append_left _ member

theorem fold_tidy (steps : List Component) (tidy : Tidy steps) : Tidy (fold steps) := by
  have general : ∀ rest : List Component, (∀ step ∈ rest, Plain step) → ∀ folded : List Component,
      Tidy folded.reverse → Tidy (rest.foldl foldStep folded).reverse := by
    intro rest
    induction rest with
    | nil => exact fun _ folded tidy => tidy
    | cons step rest ih =>
        intro plain folded tidy
        apply ih (fun other member => plain other (List.mem_cons_of_mem step member))
        exact foldStep_tidy folded tidy step (plain step List.mem_cons_self)
  obtain ⟨rest, plain, shape⟩ := tidy
  rcases shape with rfl | rfl
  · exact general steps plain [] ⟨[], by simp, .inl rfl⟩
  · exact general rest plain [.root] ⟨[], by simp, .inr rfl⟩

theorem normalize_eq (path : Path) : path.normalize = ofComponents (fold path.solid) := by
  rw [normalize, solid_eq, fold_filter]

theorem normalize_solid (path : Path) : path.normalize.solid = fold path.solid := by
  rw [normalize_eq, ofComponents, solid, String.toList_ofList]
  exact solid_textOf _ (fold_tidy _ path.solid_tidy)

theorem foldl_fold (steps : List Component) :
    (fold steps).foldl foldStep [] = steps.foldl foldStep [] := by
  unfold fold
  suffices kept : ∀ steps folded : List Component, folded.reverse.foldl foldStep [] = folded →
      (steps.foldl foldStep folded).reverse.foldl foldStep [] = steps.foldl foldStep folded from
    kept steps [] rfl
  intro steps
  induction steps with
  | nil => exact fun folded same => same
  | cons step rest ih =>
      intro folded same
      apply ih
      have push : ∀ other : Component, foldStep folded other = other :: folded →
          (other :: folded).reverse.foldl foldStep [] = other :: folded := by
        intro other put
        rw [List.reverse_cons, List.foldl_append, same]
        exact put
      cases step with
      | root => exact push .root rfl
      | normal name => exact push (.normal name) rfl
      | current => exact same
      | parent =>
          cases folded with
          | nil => rfl
          | cons top others =>
              cases top with
              | root => exact same
              | current => exact same
              | parent => exact push .parent rfl
              | normal name =>
                  rw [List.reverse_cons, List.foldl_append] at same
                  exact (List.cons.inj same).2

theorem fold_append (front back : List Component) :
    fold (fold front ++ back) = fold (front ++ back) := by
  unfold fold
  rw [List.foldl_append, List.foldl_append, ← fold, foldl_fold]

theorem normalize_components (path : Path) : path.normalize.components = fold path.solid := by
  have tidy := fold_tidy _ path.solid_tidy
  rw [normalize_eq, ofComponents, components, String.toList_ofList, componentsOf_eq,
    leading_textOf _ tidy, solid_textOf _ tidy, List.nil_append]

theorem fold_append_names (front names : List Component)
    (down : ∀ step ∈ names, ∃ name, step = .normal name) :
    fold (front ++ names) = fold front ++ names := by
  induction names using List.reverseRecOn with
  | nil => simp
  | append_singleton names last ih =>
      obtain ⟨name, rfl⟩ := down last (by simp)
      have inner := ih fun step member => down step (List.mem_append_left _ member)
      unfold fold at inner ⊢
      rw [← List.append_assoc, List.foldl_append, ← List.append_assoc, ← inner]
      exact List.reverse_cons

/-- Below a folded path lies what has no `..` in it, and it is reached by its names alone. -/
theorem normalize_join_components (base : Path) (added : String)
    (relative : added.toList.head? ≠ some '/')
    (inside : ['.', '.'] ∉ Text.pieces (· == '/') added.toList) :
    (base.normalize.join added).normalize.components = base.normalize.components ++
      (Text.pieces (· == '/') added.toList).filterMap Component.ofPiece? := by
  have down : ∀ step ∈ (Text.pieces (· == '/') added.toList).filterMap Component.ofPiece?,
      ∃ name, step = .normal name := by
    intro step member
    obtain ⟨piece, listed, read⟩ := List.mem_filterMap.mp member
    unfold Component.ofPiece? at read
    split at read
    · contradiction
    · split at read
      · rename_i climbs
        exact absurd (beq_iff_eq.mp climbs ▸ listed) inside
      · exact ⟨piece, (Option.some.inj read).symm⟩
  rw [normalize_components, join_solid _ _ relative, normalize_solid, fold_append,
    fold_append_names _ _ down, normalize_components]

theorem fold_fold (steps : List Component) : fold (fold steps) = fold steps := by
  simpa using fold_append steps []

/-- What is joined to a folded path leads where it leads from the path itself. -/
theorem normalize_join_normalize (base : Path) (added : String) :
    (base.normalize.join added).normalize = (base.join added).normalize := by
  by_cases absolute : added.toList.head? = some '/'
  · unfold join
    rw [if_pos (by simpa using absolute), if_pos (by simpa using absolute)]
  · rw [normalize_eq, normalize_eq (base.join added), join_solid _ _ absolute,
      join_solid _ _ absolute, normalize_solid, fold_append]

end Path

end UiContract
