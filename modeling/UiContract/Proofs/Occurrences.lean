import UiContract.Proofs.LineTables
import UiContract.Regex

/-!
The occurrences that are found in a text. The search goes from one to the next, so it finds every
occurrence that is not empty and does not begin inside of one before it, each of them once.
-/
namespace UiContract.Regex

/-- The occurrences that are not empty in a text, behind a part of it that was gone through. Where none
begins, one character is passed over; one that was found is gone through as a whole. It is on the line
behind the line breaks in front of it. -/
inductive Found (machine : Machine) : List Char → List Char → List Occurrence → Prop
  | done {front : List Char} : Found machine front [] []
  | passed {front : List Char} {character : Char} {rest : List Char} {found : List Occurrence} :
      (∀ length, machine.lengthAt? ⟨front.getLast?, character :: rest⟩ = some length → length = 0) →
      Found machine (front ++ [character]) rest found →
      Found machine front (character :: rest) found
  | taken {front word rest : List Char} {found : List Occurrence} : word ≠ [] →
      machine.lengthAt? ⟨front.getLast?, word ++ rest⟩ = some word.length →
      Found machine (front ++ word) rest found →
      Found machine front (word ++ rest) (⟨front.count '\n' + 1, word⟩ :: found)

section Occurrences

variable {machine : Machine}

theorem run_le {text : List Char} {ways : List Nat} {taken length : Nat} {best : Option Nat}
    {before : Option Char} (bounded : ∀ earlier ∈ best, earlier ≤ taken)
    (ran : machine.run ways taken best before text = some length) : length ≤ taken + text.length := by
  -- The best length so far never is ahead of what has been taken.
  induction text generalizing ways taken best before with
  | nil =>
      rw [Machine.run] at ran
      split at ran
      · exact Nat.le_of_eq (Option.some.inj ran).symm
      · exact bounded length ran
  | cons character rest ih =>
      rw [Machine.run] at ran
      have here : ∀ earlier ∈ (if (machine.openAt ⟨before, character :: rest⟩ ways).accepted = true
          then some taken else best), earlier ≤ taken := by
        intro earlier member
        split at member
        · exact Nat.le_of_eq (Option.some.inj member).symm
        · exact bounded earlier member
      split at ran
      · exact Nat.le_add_right_of_le (here length ran)
      · have later := ih (fun earlier member => Nat.le_succ_of_le (here earlier member)) ran
        rw [List.length_cons]
        omega

theorem lengthAt_le {point : Point} {length : Nat} (found : machine.lengthAt? point = some length) :
    length ≤ point.rest.length := by
  have most := run_le (by simp) found
  rwa [Nat.zero_add] at most

theorem byteSize_concat (front : List Char) (character : Char) :
    Text.byteSize (front ++ [character]) = Text.byteSize front + Text.charSize character :=
  Text.byteSize_append front [character]

theorem spansFrom_word (machine : Machine) (front word rest : List Char) :
    spansFrom machine front.getLast? (Text.byteSize front) word.length (word ++ rest) =
      spansFrom machine (front ++ word).getLast? (Text.byteSize (front ++ word)) 0 rest := by
  induction word generalizing front with
  | nil => rw [List.append_nil, List.nil_append, List.length_nil]
  | cons character more ih =>
      have further := ih (front ++ [character])
      rw [List.getLast?_concat, byteSize_concat, List.append_assoc, List.singleton_append] at further
      rw [List.cons_append, List.length_cons, spansFrom, ← further]

theorem spansFrom_passed {front : List Char} {character : Char} {rest : List Char}
    (none : ∀ length, machine.lengthAt? ⟨front.getLast?, character :: rest⟩ = some length → length = 0) :
    spansFrom machine front.getLast? (Text.byteSize front) 0 (character :: rest) =
      spansFrom machine (front ++ [character]).getLast? (Text.byteSize (front ++ [character])) 0
        rest := by
  have passed := spansFrom_word machine front [character] rest
  rw [← passed, List.singleton_append, List.length_singleton]
  cases found : machine.lengthAt? ⟨front.getLast?, character :: rest⟩ with
  | none => simp [spansFrom, found]
  | some length => simp [spansFrom, found, none length found]

theorem spansFrom_taken {front word rest : List Char} (filled : word ≠ [])
    (found : machine.lengthAt? ⟨front.getLast?, word ++ rest⟩ = some word.length) :
    spansFrom machine front.getLast? (Text.byteSize front) 0 (word ++ rest) =
      ⟨Text.byteSize front, word⟩ :: spansFrom machine (front ++ word).getLast?
        (Text.byteSize (front ++ word)) 0 rest := by
  obtain ⟨character, more, rfl⟩ := List.exists_cons_of_ne_nil filled
  have taken : ((character :: more) ++ rest).take (more.length + 1) = character :: more :=
    List.take_left' rfl
  have further := spansFrom_word machine front (character :: more) rest
  rw [List.cons_append, List.length_cons, spansFrom] at further
  rw [List.cons_append] at found taken ⊢
  rw [spansFrom, found, ← further, List.length_cons]
  dsimp only
  rw [taken]

def occurrencesBehind (machine : Machine) (front text : List Char) : List Occurrence :=
  (spansFrom machine front.getLast? (Text.byteSize front) 0 text).map
    (Span.occurrence (Text.lineStarts (front ++ text)))

theorem occurrencesBehind_passed {front : List Char} {character : Char} {rest : List Char}
    (none : ∀ length, machine.lengthAt? ⟨front.getLast?, character :: rest⟩ = some length → length = 0) :
    occurrencesBehind machine front (character :: rest) =
      occurrencesBehind machine (front ++ [character]) rest := by
  unfold occurrencesBehind
  rw [spansFrom_passed none, List.append_assoc, List.singleton_append]

theorem occurrencesBehind_taken {front word rest : List Char} (filled : word ≠ [])
    (found : machine.lengthAt? ⟨front.getLast?, word ++ rest⟩ = some word.length) :
    occurrencesBehind machine front (word ++ rest) =
      ⟨front.count '\n' + 1, word⟩ :: occurrencesBehind machine (front ++ word) rest := by
  unfold occurrencesBehind
  rw [spansFrom_taken filled found, List.map_cons, Span.occurrence, Text.lineAt_lineStarts,
    List.append_assoc]

theorem lengthAt_cases (machine : Machine) (front text : List Char) :
    (∀ length, machine.lengthAt? ⟨front.getLast?, text⟩ = some length → length = 0) ∨
      ∃ word rest, text = word ++ rest ∧ word ≠ [] ∧
        machine.lengthAt? ⟨front.getLast?, word ++ rest⟩ = some word.length := by
  cases found : machine.lengthAt? ⟨front.getLast?, text⟩ with
  | none => exact .inl nofun
  | some length =>
      by_cases empty : length = 0
      · exact .inl fun other same => (Option.some.inj same).symm.trans empty
      · have whole : text = text.take length ++ text.drop length := (List.take_append_drop ..).symm
        have measured : (text.take length).length = length := List.length_take_of_le (lengthAt_le found)
        refine .inr ⟨_, _, whole, fun none => empty ?_, ?_⟩
        · rw [← measured, none, List.length_nil]
        · rw [← whole, found, measured]

/-- The search finds what there is to find, each occurrence once and in order. -/
theorem occurrencesBehind_found (machine : Machine) (front text : List Char) :
    Found machine front text (occurrencesBehind machine front text) := by
  -- The induction is on how much is left, since an occurrence is gone through as a whole.
  induction size : text.length using Nat.strongRecOn generalizing front text with
  | _ size ih =>
      subst size
      rcases lengthAt_cases machine front text with none | ⟨word, rest, rfl, filled, found⟩
      · cases text with
        | nil => exact .done
        | cons character rest =>
            rw [occurrencesBehind_passed none]
            exact .passed none (ih rest.length (Nat.lt_succ_self _) _ _ rfl)
      · have shorter : rest.length < (word ++ rest).length := by
          rw [List.length_append]
          exact Nat.lt_add_of_pos_left (List.length_pos_iff.mpr filled)
        rw [occurrencesBehind_taken filled found]
        exact .taken filled found (ih rest.length shorter _ _ rfl)

theorem Found.unique {front text : List Char} {found : List Occurrence}
    (all : Found machine front text found) : found = occurrencesBehind machine front text := by
  induction all with
  | done => rfl
  | passed nowhere _ ih => rw [occurrencesBehind_passed nowhere, ih]
  | taken filled here _ ih => rw [occurrencesBehind_taken filled here, ih]

theorem found_iff {regex : Regex} {text : String} {found : List Occurrence} :
    Found regex.machine [] text.toList found ↔ found = regex.occurrences text :=
  ⟨Found.unique, fun same => same ▸ occurrencesBehind_found regex.machine [] text.toList⟩

end Occurrences

end UiContract.Regex
