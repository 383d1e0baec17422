import Mathlib.Data.List.DropRight
import UiContract.Text.Blank

/-!
Trimming. What a trim takes away satisfies its test, what it leaves neither begins nor ends with a
character that does, and a text of which the latter holds already is left as it is.
-/
namespace UiContract.Text

def Bare (test : Char → Bool) (characters : List Char) : Prop :=
  (∀ first ∈ characters.head?, test first = false) ∧
    ∀ last ∈ characters.getLast?, test last = false

instance (test : Char → Bool) (characters : List Char) : Decidable (Bare test characters) :=
  decidable_of_iff ((characters.head?.all fun first => !test first) = true ∧
      (characters.getLast?.all fun last => !test last) = true)
    (by simp [Bare, Option.all_eq_true])

section

variable (test : Char → Bool) (characters : List Char)

theorem head_dropWhile : ∀ first ∈ (characters.dropWhile test).head?, test first = false := by
  induction characters with
  | nil => nofun
  | cons character rest ih =>
      rw [List.dropWhile_cons]
      split
      · exact ih
      · rename_i stays
        rintro first ⟨⟩
        exact Bool.eq_false_iff.mpr stays

/-- Trimming takes a text apart into what satisfies the test at its ends and what is left. -/
theorem dropEnds_parts : ∃ front back,
    characters = front ++ dropEnds test characters ++ back ∧
      ∀ character ∈ front ++ back, test character = true := by
  unfold dropEnds dropEnd
  refine ⟨characters.takeWhile test,
    ((characters.dropWhile test).reverse.takeWhile test).reverse, ?_, ?_⟩
  · rw [List.append_assoc, ← List.reverse_append, List.takeWhile_append_dropWhile,
      List.reverse_reverse, List.takeWhile_append_dropWhile]
  · intro character member
    rcases List.mem_append.mp member with front | back
    · exact List.mem_takeWhile_imp front
    · exact List.mem_takeWhile_imp (List.mem_reverse.mp back)

theorem dropEnds_bare : Bare test (dropEnds test characters) := by
  constructor
  · -- What is left is a beginning of what was left of the front.
    intro first found
    obtain ⟨rest, whole⟩ := List.rdropWhile_prefix test (l := characters.dropWhile test)
    refine head_dropWhile test characters first ?_
    rw [← whole, List.head?_append]
    exact Option.mem_def.mpr (Option.or_eq_some_iff.mpr (.inl found))
  · intro last found
    unfold dropEnds dropEnd at found
    rw [List.getLast?_reverse] at found
    exact head_dropWhile _ _ last found

theorem dropEnds_of_bare (bare : Bare test characters) : dropEnds test characters = characters := by
  unfold dropEnds dropEnd
  have front : characters.dropWhile test = characters := by
    cases characters with
    | nil => rfl
    | cons first rest => simp [bare.1 first rfl]
  rw [front]
  have back : characters.reverse.dropWhile test = characters.reverse := by
    cases reversed : characters.reverse with
    | nil => rfl
    | cons last rest =>
        have final : characters.getLast? = some last := by
          rw [← List.head?_reverse, reversed]
          rfl
        simp [bare.2 last final]
  rw [back, List.reverse_reverse]

theorem dropEnds_mark (query : List Char) (mark : Char) (bare : Bare test characters)
    (solid : test mark = false) : ∃ rest,
    dropEnds test (characters ++ mark :: query) = characters ++ mark :: rest := by
  have front : (characters ++ mark :: query).dropWhile test = characters ++ mark :: query := by
    cases characters with
    | nil => simp [solid]
    | cons first rest => simp [bare.1 first rfl]
  unfold dropEnds dropEnd
  rw [front, List.reverse_append, List.reverse_cons, List.append_assoc, List.dropWhile_append]
  split
  · exact ⟨[], by simp [solid]⟩
  · exact ⟨(query.reverse.dropWhile test).reverse, by simp⟩

theorem dropEnds_surround (first last : Char) (opens : test first = true)
    (closes : test last = true) :
    dropEnds test (first :: (characters ++ [last])) = dropEnds test characters := by
  unfold dropEnds dropEnd
  rw [List.dropWhile_cons_of_pos opens, List.dropWhile_append]
  split
  · rename_i none
    rw [List.isEmpty_iff.mp none, List.dropWhile_cons_of_pos closes]
    rfl
  · rw [List.reverse_append, List.reverse_singleton, List.singleton_append,
      List.dropWhile_cons_of_pos closes]

end

end UiContract.Text
