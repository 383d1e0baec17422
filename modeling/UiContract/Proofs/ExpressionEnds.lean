import Mathlib.Data.List.Dedup
import UiContract.Regex.Expr

/-!
Where the occurrences of an expression end. They end at the place where they begin or behind it, so a
repetition that has been through its body more often than there are characters left has been through it
in vain: what it reaches in any number of turns is reached in no more turns than there are characters.
-/
namespace UiContract.Regex

def Point.behind (point : Point) (length : Nat) : Point :=
  ⟨(point.rest.take length).getLast?.or point.before, point.rest.drop length⟩

theorem Point.behind_zero (point : Point) : point.behind 0 = point := rfl

/-- What stands before a position behind a text, given what stands before the text. -/
theorem getLast_cons_or (character : Char) (more : List Char) (before : Option Char) :
    (character :: more).getLast?.or before = more.getLast?.or (some character) := by
  cases more <;> simp [List.getLast?_cons]

theorem Point.behind_cons (before : Option Char) (character : Char) (rest : List Char) (length : Nat) :
    Point.behind ⟨before, character :: rest⟩ (length + 1) = Point.behind ⟨some character, rest⟩ length := by
  unfold Point.behind
  rw [List.take_succ_cons, List.drop_succ_cons, getLast_cons_or]

theorem Point.behind_behind (point : Point) (first second : Nat) :
    (point.behind first).behind second = point.behind (first + second) := by
  obtain ⟨before, rest⟩ := point
  induction first generalizing before rest with
  | zero => rw [Nat.zero_add, Point.behind_zero]
  | succ first ih =>
      cases rest with
      | nil => simp [Point.behind]
      | cons character rest => rw [Nat.add_right_comm, Point.behind_cons, Point.behind_cons, ih]

def Onward (point last : Point) : Prop :=
  ∃ length ≤ point.rest.length, last = point.behind length

theorem Onward.refl (point : Point) : Onward point point := ⟨0, Nat.zero_le _, rfl⟩

theorem Onward.trans {first second third : Point} (one : Onward first second)
    (two : Onward second third) : Onward first third := by
  obtain ⟨length, short, rfl⟩ := one
  obtain ⟨more, short', rfl⟩ := two
  have left : (first.behind length).rest.length = first.rest.length - length := List.length_drop ..
  exact ⟨length + more, by omega, Point.behind_behind ..⟩

theorem Onward.eq_or_lt {point last : Point} (onward : Onward point last) :
    last = point ∨ last.rest.length < point.rest.length := by
  obtain ⟨length, short, rfl⟩ := onward
  have left : (point.behind length).rest.length = point.rest.length - length := List.length_drop ..
  rcases Nat.eq_zero_or_pos length with rfl | filled
  · exact .inl rfl
  · exact .inr (by omega)

inductive Turns (turn : Point → Point → Prop) : Nat → Point → Point → Prop
  | none {point : Point} : Turns turn 0 point point
  | more {count : Nat} {point middle last : Point} : turn point middle → Turns turn count middle last →
      Turns turn (count + 1) point last

section Turns

variable {turn : Point → Point → Prop} {first second count : Nat} {point middle last : Point}

theorem turns_zero : Turns turn 0 point last ↔ last = point :=
  ⟨fun | .none => rfl, fun same => same ▸ .none⟩

theorem turns_succ : Turns turn (count + 1) point last ↔
    ∃ middle, turn point middle ∧ Turns turn count middle last :=
  ⟨fun | .more here later => ⟨_, here, later⟩, fun ⟨_, here, later⟩ => .more here later⟩

theorem turns_add : Turns turn (first + second) point last ↔
    ∃ middle, Turns turn first point middle ∧ Turns turn second middle last := by
  induction first generalizing point with
  | zero => simp [turns_zero]
  | succ first ih =>
      rw [Nat.add_right_comm, turns_succ]
      constructor
      · rintro ⟨next, here, later⟩
        obtain ⟨middle, one, two⟩ := ih.mp later
        exact ⟨middle, .more here one, two⟩
      · rintro ⟨middle, one, two⟩
        obtain ⟨next, here, later⟩ := turns_succ.mp one
        exact ⟨next, here, ih.mpr ⟨middle, later, two⟩⟩

theorem turns_concat : Turns turn (count + 1) point last ↔
    ∃ middle, Turns turn count point middle ∧ turn middle last := by
  rw [turns_add]
  refine exists_congr fun middle => and_congr_right fun _ => ?_
  simp [turns_succ, turns_zero]

theorem Turns.onward (forward : ∀ {point last}, turn point last → Onward point last)
    (turns : Turns turn count point last) : Onward point last := by
  induction turns with
  | none => exact .refl _
  | more here _ ih => exact (forward here).trans ih

/-- Turns that stay where they are can be left out, and of the others there is none for which there is no
character. -/
theorem Turns.shorten (forward : ∀ {point last}, turn point last → Onward point last)
    (turns : Turns turn count point last) :
    ∃ fewer ≤ count, fewer ≤ point.rest.length ∧ Turns turn fewer point last := by
  induction turns with
  | none => exact ⟨0, Nat.le_refl _, Nat.zero_le _, .none⟩
  | @more count point middle last here _ ih =>
      obtain ⟨fewer, most, short, later⟩ := ih
      rcases (forward here).eq_or_lt with rfl | less
      · exact ⟨fewer, Nat.le_succ_of_le most, short, later⟩
      · exact ⟨fewer + 1, Nat.succ_le_succ most, by omega, .more here later⟩

end Turns

section Reached

variable {next : Point → List Point} {count : Nat} {points : List Point} {last : Point}

theorem nodup_eraseDups (points : List Point) : points.eraseDups.Nodup := by
  induction size : points.length using Nat.strongRecOn generalizing points with
  | _ size ih =>
      subst size
      cases points with
      | nil => exact .nil
      | cons first rest =>
          have fewer : (rest.filter fun other => !other == first).length < (first :: rest).length :=
            Nat.lt_succ_of_le (List.length_filter_le ..)
          rw [List.eraseDups_cons, List.nodup_cons]
          exact ⟨by simp, ih _ fewer _ rfl⟩

theorem eraseDups_of_nodup (apart : points.Nodup) : points.eraseDups = points := by
  induction apart with
  | nil => rfl
  | @cons first rest other _ ih =>
      have kept : (rest.filter fun point => !point == first) = rest := by
        rw [List.filter_eq_self]
        intro point member
        simpa using (other point member).symm
      rw [List.eraseDups_cons, kept, ih]

theorem mem_reachedAfter : last ∈ reachedAfter next count points ↔
    ∃ point ∈ points, Turns (fun point last => last ∈ next point) count point last := by
  induction count generalizing points with
  | zero => simp [reachedAfter, turns_zero]
  | succ count ih =>
      rw [reachedAfter]
      split
      · rename_i none
        rw [List.isEmpty_iff.mp none]
        simp
      · rw [ih]
        simp only [List.mem_eraseDups, List.mem_flatMap, turns_succ]
        constructor
        · rintro ⟨middle, ⟨point, listed, here⟩, later⟩
          exact ⟨point, listed, middle, here, later⟩
        · rintro ⟨point, listed, middle, here, later⟩
          exact ⟨middle, ⟨point, listed, here⟩, later⟩

theorem nodup_reachedAfter (apart : points.Nodup) : (reachedAfter next count points).Nodup := by
  induction count generalizing points with
  | zero => exact apart
  | succ count ih =>
      rw [reachedAfter]
      split
      · exact .nil
      · exact ih (nodup_eraseDups _)

/-- Points from which a turn leads to no others lead to no others in any number of turns. -/
theorem Turns.settled (settled : points.flatMap next ⊆ points) {point : Point} (listed : point ∈ points)
    (turns : Turns (fun point last => last ∈ next point) count point last) : last ∈ points := by
  induction turns with
  | none => exact listed
  | more here _ ih => exact ih (settled (List.mem_flatMap.mpr ⟨_, listed, here⟩))

/-- Where a turn adds no point to points that are all different, it leads to none but them. -/
theorem settled_of_length (apart : points.Nodup)
    (same : (points ++ points.flatMap next).eraseDups.length = points.length) :
    points.flatMap next ⊆ points := by
  intro point reached
  rw [List.eraseDups_append, eraseDups_of_nodup apart, List.length_append] at same
  have none : ((points.flatMap next).removeAll points).eraseDups = [] :=
    List.length_eq_zero_iff.mp (by omega)
  by_contra fresh
  have added : point ∈ ((points.flatMap next).removeAll points).eraseDups := by
    rw [List.mem_eraseDups, List.removeAll, List.mem_filter]
    exact ⟨reached, by simpa using fresh⟩
  rw [none] at added
  contradiction

theorem mem_reachedIn (apart : points.Nodup) : last ∈ reachedIn next count points ↔
    ∃ point ∈ points, ∃ fewer ≤ count, Turns (fun point last => last ∈ next point) fewer point last := by
  induction count generalizing points with
  | zero => simp [reachedIn, turns_zero]
  | succ count ih =>
      rw [reachedIn]
      split
      · rename_i same
        have settled := settled_of_length apart (eq_of_beq same)
        constructor
        · exact fun listed => ⟨last, listed, 0, Nat.zero_le _, .none⟩
        · rintro ⟨point, listed, fewer, -, turns⟩
          exact turns.settled settled listed
      · rw [ih (nodup_eraseDups _)]
        simp only [List.mem_eraseDups, List.mem_append, List.mem_flatMap]
        constructor
        · rintro ⟨middle, listed | ⟨point, listed, here⟩, fewer, most, later⟩
          · exact ⟨middle, listed, fewer, Nat.le_succ_of_le most, later⟩
          · exact ⟨point, listed, fewer + 1, Nat.succ_le_succ most, .more here later⟩
        · rintro ⟨point, listed, fewer, most, turns⟩
          cases turns with
          | none => exact ⟨_, .inl listed, 0, Nat.zero_le _, .none⟩
          | more here later => exact ⟨_, .inr ⟨point, listed, here⟩, _, Nat.le_of_succ_le_succ most, later⟩

end Reached

namespace Expr

def Occurs (expr : Expr) (point last : Point) : Prop := last ∈ expr.ends point

section Occurs

variable {first second body : Expr} {point last : Point}

theorem mem_ends_seq : last ∈ (seq first second).ends point ↔
    ∃ middle ∈ first.ends point, last ∈ second.ends middle := by
  rw [ends, List.mem_eraseDups, List.mem_flatMap]

theorem mem_ends_either :
    last ∈ (either first second).ends point ↔ last ∈ first.ends point ∨ last ∈ second.ends point := by
  rw [ends, List.mem_eraseDups, List.mem_append]

theorem mem_ends_look {asked : Look} :
    last ∈ (look asked).ends point ↔ last = point ∧ asked.holds point = true := by
  rw [ends]
  split
  · simp_all
  · simp_all

theorem mem_ends_set {members : CharSet} : last ∈ (set members).ends point ↔
    ∃ character rest, point.rest = character :: rest ∧ members.contains character = true ∧
      last = ⟨some character, rest⟩ := by
  rw [ends]
  split
  · simp_all
  · rename_i character rest ahead
    rw [ahead]
    split <;> simp_all

def turnLimit (least : Nat) (most : Option Nat) (left : Nat) : Nat :=
  match most with
  | some most => min (most - least) (left + 1)
  | none => left + 1

theorem mem_ends_turns {least : Nat} {most : Option Nat} {greedy : Bool} :
    last ∈ (repeated least most greedy body).ends point ↔
      ∃ middle, Turns body.Occurs least point middle ∧
        ∃ count ≤ turnLimit least most point.rest.length, Turns body.Occurs count middle last := by
  have alone : [point].Nodup := List.nodup_singleton point
  have limited : (repeated least most greedy body).ends point =
      reachedIn body.ends (turnLimit least most point.rest.length)
        (reachedAfter body.ends least [point]) := by
    cases most <;> rfl
  rw [limited, mem_reachedIn (nodup_reachedAfter alone)]
  simp only [mem_reachedAfter, List.mem_singleton, exists_eq_left]
  rfl

theorem ends_onward {expr : Expr} (occurs : expr.Occurs point last) : Onward point last := by
  unfold Occurs at occurs
  induction expr generalizing point last with
  | empty =>
      rw [ends, List.mem_singleton] at occurs
      exact occurs ▸ .refl point
  | set members =>
      obtain ⟨character, rest, ahead, -, rfl⟩ := mem_ends_set.mp occurs
      obtain ⟨before, _⟩ := point
      obtain rfl := ahead
      exact ⟨1, Nat.le_add_left .., rfl⟩
  | look asked => exact (mem_ends_look.mp occurs).1 ▸ .refl point
  | seq first second one two =>
      obtain ⟨middle, here, behind⟩ := mem_ends_seq.mp occurs
      exact (one here).trans (two behind)
  | either first second one two => exact (mem_ends_either.mp occurs).elim one two
  | repeated least most greedy body ih =>
      obtain ⟨middle, here, count, -, behind⟩ := mem_ends_turns.mp occurs
      exact (here.onward ih).trans (behind.onward ih)

/-- A repetition goes through its body the least number of times, and then any number of times within
its bound. -/
theorem mem_ends_repeated {least : Nat} {most : Option Nat} {greedy : Bool} :
    last ∈ (repeated least most greedy body).ends point ↔
      ∃ middle, Turns body.Occurs least point middle ∧
        ∃ count, (∀ bound ∈ most, count ≤ bound - least) ∧ Turns body.Occurs count middle last := by
  rw [mem_ends_turns]
  refine exists_congr fun middle => and_congr_right fun reached => ?_
  unfold turnLimit
  constructor
  · rintro ⟨count, limited, turns⟩
    refine ⟨count, fun bound given => ?_, turns⟩
    rw [Option.mem_def.mp given] at limited
    exact Nat.le_trans limited (Nat.min_le_left ..)
  · rintro ⟨count, bounded, turns⟩
    -- No more turns are needed than there are characters left, and turns before that only take some.
    obtain ⟨fewer, most, short, shorter⟩ := turns.shorten ends_onward
    have left : middle.rest.length ≤ point.rest.length := by
      rcases (reached.onward ends_onward).eq_or_lt with rfl | less
      · exact Nat.le_refl _
      · exact Nat.le_of_lt less
    refine ⟨fewer, ?_, shorter⟩
    split
    · exact Nat.le_min.mpr ⟨Nat.le_trans most (bounded _ rfl), by omega⟩
    · omega

/-- Without a bound, the body is gone through any number of times behind the least one. -/
theorem mem_ends_unbounded {least : Nat} {greedy : Bool} :
    last ∈ (repeated least none greedy body).ends point ↔
      ∃ middle, Turns body.Occurs least point middle ∧ ∃ count, Turns body.Occurs count middle last := by
  rw [mem_ends_repeated]
  simp

end Occurs

end Expr

end UiContract.Regex
