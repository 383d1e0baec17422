import Mathlib.Data.List.Basic
import UiContract.Proofs.Encoding
import UiContract.Text.Lines

/-!
The table of lines. Its entries increase, since a character has a byte at least, so looking a place up by
halves gives the number of entries that are not above it; and for the place behind some characters these
are the start of the text and one entry for each line break among them, a break that begins at the place
itself not included.
-/
namespace UiContract.Text

theorem charSize_pos (character : Char) : 0 < charSize character := by
  unfold charSize
  dsimp only
  split_ifs <;> decide

theorem lineStartsFrom_append (place : Nat) (front back : List Char) :
    lineStartsFrom place (front ++ back) =
      lineStartsFrom place front ++ lineStartsFrom (place + byteSize front) back := by
  induction front generalizing place with
  | nil => rfl
  | cons character front ih =>
      have further : place + charSize character + byteSize front = place + byteSize (character :: front) :=
        Nat.add_assoc ..
      rw [List.cons_append, lineStartsFrom, lineStartsFrom, ih, further]
      split <;> rfl

theorem length_lineStartsFrom (place : Nat) (text : List Char) :
    (lineStartsFrom place text).length = text.count '\n' := by
  induction text generalizing place with
  | nil => rfl
  | cons character rest ih =>
      rw [lineStartsFrom, List.count_cons]
      split
      · rw [List.length_cons, ih]
      · exact ih _

/-- Lines begin behind the place where the characters begin, and not behind their end. -/
theorem lineStartsFrom_between {place start : Nat} {text : List Char}
    (member : start ∈ lineStartsFrom place text) : place < start ∧ start ≤ place + byteSize text := by
  induction text generalizing place with
  | nil => contradiction
  | cons character rest ih =>
      have longer := charSize_pos character
      have whole : byteSize (character :: rest) = charSize character + byteSize rest := rfl
      rw [lineStartsFrom] at member
      split at member
      · rcases List.mem_cons.mp member with here | later
        · omega
        · have inside := ih later
          omega
      · have inside := ih member
        omega

theorem lineStartsFrom_increasing (place : Nat) (text : List Char) :
    (lineStartsFrom place text).Pairwise (· < ·) := by
  induction text generalizing place with
  | nil => exact .nil
  | cons character rest ih =>
      rw [lineStartsFrom]
      split
      · exact .cons (fun _ member => (lineStartsFrom_between member).1) (ih _)
      · exact ih _

theorem lineStarts_increasing (text : List Char) : (lineStarts text).toList.Pairwise (· < ·) :=
  .cons (fun _ member => (lineStartsFrom_between member).1) (lineStartsFrom_increasing 0 text)

/-- In an increasing list the entries that are not above a place are the first ones. -/
theorem getElem_le_iff {entries : List Nat} (increasing : entries.Pairwise (· < ·)) (place : Nat)
    {index : Nat} (inside : index < entries.length) :
    entries[index] ≤ place ↔ index < entries.countP (· ≤ place) := by
  induction increasing generalizing index with
  | nil => contradiction
  | @cons first rest above _ ih =>
      rw [List.countP_cons]
      by_cases low : first ≤ place
      · cases index with
        | zero => simp [low]
        | succ index => simp [low, ih (Nat.lt_of_succ_lt_succ inside)]
      · -- Behind an entry that is above the place all others are, too.
        have none : rest.countP (· ≤ place) = 0 := by
          rw [List.countP_eq_zero]
          intro entry member
          have later := above entry member
          simp only [decide_eq_true_eq]
          omega
        have high : place < (first :: rest)[index] := by
          cases index with
          | zero => exact Nat.lt_of_not_le low
          | succ index =>
              have later := above _ (List.getElem_mem (Nat.lt_of_succ_lt_succ inside))
              exact Nat.lt_trans (Nat.lt_of_not_le low) later
        simp only [none, low, decide_false]
        exact iff_of_false (Nat.not_le_of_lt high) (Nat.not_lt_zero _)

/-- Looking by halves finds where the entries that are not above a place come to an end. -/
theorem partitionBetween_eq {entries : Array Nat} {place low high cut : Nat}
    (parted : ∀ index < entries.size, (entries.getD index 0 ≤ place ↔ index < cut))
    (above : low ≤ cut) (below : cut ≤ high) (inside : high ≤ entries.size) :
    partitionBetween entries place low high = cut := by
  -- The end lies between the two indices all the time, and they come closer.
  fun_induction partitionBetween entries place low high with
  | case1 low high apart middle fits ih =>
      have halved : middle < high := Nat.div_lt_of_lt_mul (by omega)
      exact ih ((parted middle (Nat.lt_of_lt_of_le halved inside)).mp fits) below inside
  | case2 low high apart middle exceeds ih =>
      have halved : middle < high := Nat.div_lt_of_lt_mul (by omega)
      have further := Nat.lt_of_lt_of_le halved inside
      exact ih above (Nat.le_of_not_lt (mt (parted middle further).mpr exceeds)) (Nat.le_of_lt further)
  | case3 low high together => omega

/-- In a table that increases, the line of a place is the number of entries that are not above it. -/
theorem lineAt_increasing {starts : Array Nat} (increasing : starts.toList.Pairwise (· < ·))
    (place : Nat) : lineAt starts place = starts.toList.countP (· ≤ place) := by
  refine partitionBetween_eq (fun index inside => ?_) (Nat.zero_le _) List.countP_le_length (Nat.le_refl _)
  rw [← getElem_le_iff increasing place inside, Array.getD_eq_getD_getElem?,
    Array.getElem?_eq_getElem inside, Option.getD_some, Array.getElem_toList]

/-- The place behind some characters is on the line behind the line breaks among them. -/
theorem lineAt_lineStarts (front back : List Char) :
    lineAt (lineStarts (front ++ back)) (byteSize front) = front.count '\n' + 1 := by
  have table : (lineStarts (front ++ back)).toList =
      0 :: (lineStartsFrom 0 front ++ lineStartsFrom (byteSize front) back) := by
    show 0 :: lineStartsFrom 0 (front ++ back) = _
    rw [lineStartsFrom_append, Nat.zero_add]
  have passed : (lineStartsFrom 0 front).countP (· ≤ byteSize front) = front.count '\n' := by
    rw [← length_lineStartsFrom 0 front, List.countP_eq_length]
    intro start member
    have inside := (lineStartsFrom_between member).2
    rw [Nat.zero_add] at inside
    exact decide_eq_true inside
  have ahead : (lineStartsFrom (byteSize front) back).countP (· ≤ byteSize front) = 0 := by
    rw [List.countP_eq_zero]
    intro start member
    simp [(lineStartsFrom_between member).1]
  rw [lineAt_increasing (lineStarts_increasing _), table, List.countP_cons, List.countP_append, passed,
    ahead]
  rfl

end UiContract.Text
