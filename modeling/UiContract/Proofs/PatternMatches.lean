import UiContract.Checks.Patterns
import UiContract.Proofs.ComparedForms
import UiContract.Proofs.MachineRuns
import UiContract.Proofs.Occurrences

/-!
What `scan_text` finds in a text. An occurrence is told by its stretch of the text: those that are found are
the leftmost ones, each beginning at the first place behind the one before where the preferred occurrence is
not empty, and there is only one such list of stretches. A finding has the line where its stretch begins and
a snippet of one line.
-/
namespace UiContract

structure Stretch where
  place : Nat
  length : Nat
deriving DecidableEq, Repr

namespace Stretch

def stop (stretch : Stretch) : Nat := stretch.place + stretch.length

def text (whole : List Char) (stretch : Stretch) : List Char :=
  (whole.drop stretch.place).take stretch.length

def line (whole : List Char) (stretch : Stretch) : Nat :=
  (whole.take stretch.place).count '\n' + 1

end Stretch

namespace Regex

def pointAt (whole : List Char) (place : Nat) : Point :=
  ⟨(whole.take place).getLast?, whole.drop place⟩

def Prefers (machine : Machine) (whole : List Char) (stretch : Stretch) : Prop :=
  machine.lengthAt? (pointAt whole stretch.place) = some stretch.length

/-- The leftmost occurrences in a text from a place on: each is preferred where it begins, and not empty;
they are in order and do not overlap; and no other one that is not empty begins outside of them. -/
structure Leftmost (machine : Machine) (whole : List Char) (start : Nat) (found : List Stretch) :
    Prop where
  preferred : ∀ stretch ∈ found, Prefers machine whole stretch
  filled : ∀ stretch ∈ found, 0 < stretch.length
  behind : ∀ stretch ∈ found, start ≤ stretch.place
  inside : ∀ stretch ∈ found, stretch.stop ≤ whole.length
  ordered : found.Pairwise fun first second => first.stop ≤ second.place
  all : ∀ stretch, Prefers machine whole stretch → 0 < stretch.length → start ≤ stretch.place →
    ∃ covering ∈ found, covering.place ≤ stretch.place ∧ stretch.place < covering.stop

section Leftmost

variable {machine : Machine} {whole : List Char} {start : Nat} {found : List Stretch}

theorem prefers_behind (front rest : List Char) (length : Nat) :
    Prefers machine (front ++ rest) ⟨front.length, length⟩ ↔
      machine.lengthAt? ⟨front.getLast?, rest⟩ = some length := by
  unfold Prefers pointAt
  rw [List.take_left, List.drop_left]

theorem Prefers.inside {stretch : Stretch} (preferred : Prefers machine whole stretch)
    (filled : 0 < stretch.length) : stretch.stop ≤ whole.length := by
  have short : stretch.length ≤ (whole.drop stretch.place).length := lengthAt_le preferred
  rw [List.length_drop] at short
  unfold Stretch.stop
  omega

theorem Leftmost.nil (ended : whole.length ≤ start) : Leftmost machine whole start [] := by
  refine ⟨nofun, nofun, nofun, nofun, .nil, fun stretch preferred filled behind => ?_⟩
  have short := preferred.inside filled
  unfold Stretch.stop at short
  omega

theorem Leftmost.passed (nowhere : ∀ length, Prefers machine whole ⟨start, length⟩ → length = 0)
    (later : Leftmost machine whole (start + 1) found) : Leftmost machine whole start found := by
  refine { later with behind := fun stretch member => Nat.le_of_succ_le (later.behind stretch member),
                      all := fun stretch preferred filled behind => ?_ }
  rcases Nat.eq_or_lt_of_le behind with here | beyond
  · have empty := nowhere stretch.length (here ▸ preferred)
    omega
  · exact later.all stretch preferred filled beyond

theorem Leftmost.taken {length : Nat} (preferred : Prefers machine whole ⟨start, length⟩)
    (filled : 0 < length) (later : Leftmost machine whole (start + length) found) :
    Leftmost machine whole start (⟨start, length⟩ :: found) := by
  constructor
  case preferred => exact List.forall_mem_cons.mpr ⟨preferred, later.preferred⟩
  case filled => exact List.forall_mem_cons.mpr ⟨filled, later.filled⟩
  case behind =>
    exact List.forall_mem_cons.mpr
      ⟨Nat.le_refl _, fun stretch member => Nat.le_of_add_right_le (later.behind stretch member)⟩
  case inside => exact List.forall_mem_cons.mpr ⟨preferred.inside filled, later.inside⟩
  case ordered => exact .cons later.behind later.ordered
  case all =>
    intro stretch here filled behind
    by_cases covered : stretch.place < start + length
    · exact ⟨_, List.mem_cons_self, behind, covered⟩
    · obtain ⟨covering, member, begins, ends⟩ :=
        later.all stretch here filled (Nat.le_of_not_lt covered)
      exact ⟨covering, List.mem_cons_of_mem _ member, begins, ends⟩

/-- The occurrences that are found behind a part of a text are the leftmost ones from there on. -/
theorem Found.leftmost {front text : List Char} {found : List Occurrence}
    (all : Found machine front text found) :
    ∃ stretches, Leftmost machine (front ++ text) front.length stretches ∧
      found = stretches.map fun stretch =>
        ⟨stretch.line (front ++ text), stretch.text (front ++ text)⟩ := by
  induction all with
  | done =>
      rw [List.append_nil]
      exact ⟨[], .nil (Nat.le_refl _), rfl⟩
  | @passed front character rest found nowhere _ ih =>
      rw [List.append_assoc, List.singleton_append, List.length_append, List.length_singleton] at ih
      obtain ⟨stretches, leftmost, same⟩ := ih
      refine ⟨stretches, .passed (fun length here => ?_) leftmost, same⟩
      exact nowhere length ((prefers_behind ..).mp here)
  | @taken front word rest found filled here _ ih =>
      rw [List.append_assoc, List.length_append] at ih
      obtain ⟨stretches, leftmost, same⟩ := ih
      refine ⟨⟨front.length, word.length⟩ :: stretches,
        .taken ((prefers_behind ..).mpr here) (List.length_pos_iff.mpr filled) leftmost, ?_⟩
      rw [List.map_cons, ← same, Stretch.line, Stretch.text, List.take_left, List.drop_left,
        List.take_left]

/-- A list of leftmost occurrences that has a first one is followed by those behind it. -/
theorem Leftmost.tail {first : Stretch} (leftmost : Leftmost machine whole start (first :: found)) :
    Leftmost machine whole first.stop found := by
  obtain ⟨before, ordered⟩ := List.pairwise_cons.mp leftmost.ordered
  refine ⟨fun _ member => leftmost.preferred _ (List.mem_cons_of_mem _ member),
    fun _ member => leftmost.filled _ (List.mem_cons_of_mem _ member), before,
    fun _ member => leftmost.inside _ (List.mem_cons_of_mem _ member), ordered,
    fun stretch here filled behind => ?_⟩
  have later : start ≤ stretch.place :=
    Nat.le_trans (leftmost.behind first List.mem_cons_self) (Nat.le_of_add_right_le behind)
  obtain ⟨covering, member, begins, ends⟩ := leftmost.all stretch here filled later
  rcases List.mem_cons.mp member with rfl | member
  · exact absurd ends (Nat.not_lt_of_le behind)
  · exact ⟨covering, member, begins, ends⟩

theorem Leftmost.first_le {first stretch : Stretch}
    (leftmost : Leftmost machine whole start (first :: found)) (here : Prefers machine whole stretch)
    (filled : 0 < stretch.length) (behind : start ≤ stretch.place) : first.place ≤ stretch.place := by
  obtain ⟨covering, member, begins, -⟩ := leftmost.all stretch here filled behind
  refine Nat.le_trans ?_ begins
  rcases List.mem_cons.mp member with rfl | later
  · exact Nat.le_refl _
  · exact Nat.le_of_add_right_le ((List.pairwise_cons.mp leftmost.ordered).1 covering later)

theorem Leftmost.not_nil {first : Stretch} (leftmost : Leftmost machine whole start (first :: found)) :
    ¬ Leftmost machine whole start [] := by
  intro none
  obtain ⟨_, member, -⟩ := none.all first (leftmost.preferred _ List.mem_cons_self)
    (leftmost.filled _ List.mem_cons_self) (leftmost.behind _ List.mem_cons_self)
  contradiction

theorem Leftmost.same_first {first second : Stretch} {others : List Stretch}
    (leftmost : Leftmost machine whole start (first :: found))
    (other : Leftmost machine whole start (second :: others)) : first = second := by
  have preferred := leftmost.preferred first List.mem_cons_self
  have preferred' := other.preferred second List.mem_cons_self
  have here : first.place = second.place := Nat.le_antisymm
    (leftmost.first_le preferred' (other.filled _ List.mem_cons_self) (other.behind _ List.mem_cons_self))
    (other.first_le preferred (leftmost.filled _ List.mem_cons_self)
      (leftmost.behind _ List.mem_cons_self))
  unfold Prefers at preferred preferred'
  rw [here, preferred'] at preferred
  cases first
  cases second
  exact Stretch.mk.injEq .. |>.mpr ⟨here, (Option.some.inj preferred).symm⟩

theorem Leftmost.unique {others : List Stretch} (leftmost : Leftmost machine whole start found)
    (other : Leftmost machine whole start others) : others = found := by
  induction found generalizing others start with
  | nil =>
      cases others with
      | nil => rfl
      | cons second rest => exact (other.not_nil leftmost).elim
  | cons first rest ih =>
      cases others with
      | nil => exact (leftmost.not_nil other).elim
      | cons second more =>
          obtain rfl := leftmost.same_first other
          rw [ih leftmost.tail other.tail]

end Leftmost

theorem pointAt_behind (whole : List Char) (place length : Nat) :
    (pointAt whole place).behind length = pointAt whole (place + length) := by
  unfold pointAt Point.behind
  rw [List.take_add, List.getLast?_append, List.drop_drop]

theorem machine_of_compile [Engine] {source : String} {regex : Regex} (read : compile source = .ok regex) :
    regex.machine = Machine.ofExpr regex.expr := by
  unfold compile ofExpr at read
  split at read
  · contradiction
  · split at read
    · rw [← Except.ok.inj read]
    · contradiction

/-- A regular expression prefers one of its occurrences at each place where one begins. -/
theorem prefers_occurs [Engine] {source : String} {regex : Regex} (read : compile source = .ok regex)
    (whole : List Char) (place : Nat) :
    (∀ length, Prefers regex.machine whole ⟨place, length⟩ →
      regex.expr.Occurs (pointAt whole place) (pointAt whole (place + length))) ∧
    ((∃ last, regex.expr.Occurs (pointAt whole place) last) →
      ∃ length, Prefers regex.machine whole ⟨place, length⟩) := by
  obtain ⟨occurs, nowhere⟩ := Machine.lengthAt_ofExpr regex.expr (pointAt whole place)
  unfold Prefers
  rw [machine_of_compile read]
  refine ⟨fun length preferred => ?_, fun ⟨last, begins⟩ => ?_⟩
  · rw [← pointAt_behind]
    exact (occurs length preferred).2
  · cases preferred : (Machine.ofExpr regex.expr).lengthAt? (pointAt whole place) with
    | none => exact absurd begins (nowhere.mp preferred last)
    | some length => exact ⟨length, preferred⟩

end Regex

namespace PatternMatch

theorem newline_notMem_snippet (raw : List Char) : '\n' ∉ (snippet raw).toList := by
  have line : '\n' ∉ Text.dropEnds Text.isBlank (Text.before (· == '\n') raw) := by
    intro member
    have kept := List.mem_takeWhile_imp ((Text.dropEnds_inside _ _).subset member)
    contradiction
  unfold snippet
  dsimp only
  split
  · rwa [String.toList_ofList]
  · rw [String.toList_ofList, List.mem_append, not_or]
    exact ⟨fun member => line (List.mem_of_mem_take member), by decide⟩

/-- It is cut behind eighty characters, and then a mark of one character stands at its end. -/
theorem length_snippet_le (raw : List Char) : (snippet raw).length ≤ shownLength + 1 := by
  unfold snippet
  dsimp only
  split
  · rename_i short
    rw [String.length_ofList]
    exact Nat.le_succ_of_le short
  · rw [String.length_ofList, List.length_append]
    exact Nat.succ_le_succ (List.length_take_le ..)

def ofStretch (whole : List Char) (stretch : Stretch) : PatternMatch :=
  ⟨stretch.line whole, snippet (stretch.text whole)⟩

theorem scan_leftmost (regex : Regex) (text : String) : ∃ stretches,
    Regex.Leftmost regex.machine text.toList 0 stretches ∧
      scan regex text = stretches.map (ofStretch text.toList) := by
  obtain ⟨stretches, leftmost, same⟩ := (Regex.found_iff.mpr (Eq.refl (regex.occurrences text))).leftmost
  rw [List.nil_append] at leftmost same
  refine ⟨stretches, leftmost, ?_⟩
  unfold scan
  rw [same, List.map_map]
  rfl

theorem line_le {whole : List Char} {first second : Stretch} (before : first.place ≤ second.place) :
    first.line whole ≤ second.line whole := by
  refine Nat.succ_le_succ (List.Sublist.count_le _ ?_)
  exact (List.take_prefix_take_left before).sublist

/-- A scan finds the leftmost occurrences that are not empty, in order: there is one list of stretches that
are leftmost, and the findings are those for its stretches. What is preferred at a place is an occurrence
of the expression that a pattern stands for, and there is one wherever the expression occurs. The lines go
up and are no more than one above the number of line breaks, and what is shown of each occurrence is on one
line and has at most eighty characters and a mark. -/
theorem scan_exact [Engine] (regex : Regex) (text : String) :
    (∃ stretches, Regex.Leftmost regex.machine text.toList 0 stretches ∧
      (∀ others, Regex.Leftmost regex.machine text.toList 0 others → others = stretches) ∧
      scan regex text = stretches.map (ofStretch text.toList)) ∧
    (∀ source, Regex.compile source = .ok regex → ∀ place,
      (∀ length, Regex.Prefers regex.machine text.toList ⟨place, length⟩ →
        regex.expr.Occurs (Regex.pointAt text.toList place) (Regex.pointAt text.toList (place + length))) ∧
      ((∃ last, regex.expr.Occurs (Regex.pointAt text.toList place) last) →
        ∃ length, Regex.Prefers regex.machine text.toList ⟨place, length⟩)) ∧
    (scan regex text).Pairwise (·.line ≤ ·.line) ∧
    ∀ found ∈ scan regex text, 1 ≤ found.line ∧ found.line ≤ text.toList.count '\n' + 1 ∧
      '\n' ∉ found.text.toList ∧ found.text.length ≤ 81 := by
  obtain ⟨stretches, leftmost, same⟩ := scan_leftmost regex text
  refine ⟨⟨stretches, leftmost, fun others => leftmost.unique, same⟩,
    fun source read place => Regex.prefers_occurs read text.toList place, ?_, ?_⟩
  · rw [same, List.pairwise_map]
    exact leftmost.ordered.imp fun before => line_le (Nat.le_of_add_right_le before)
  · rw [same, List.forall_mem_map]
    intro stretch _
    exact ⟨Nat.le_add_left .., Nat.succ_le_succ ((List.take_sublist ..).count_le _),
      newline_notMem_snippet _, length_snippet_le _⟩

def brokenPattern : String := "\\n+b|xx"

def brokenText : String := "ab\n\nb xx\nxx"

section Examples

attribute [local instance] Engine.rough

theorem scan_exact_breaks : ∃ regex, Regex.compile brokenPattern = .ok regex ∧
    scan regex brokenText = [⟨1, ""⟩, ⟨3, "xx"⟩, ⟨4, "xx"⟩] ∧
    regex.expr.Occurs (Regex.pointAt brokenText.toList 2) (Regex.pointAt brokenText.toList 5) ∧
    (∃ stretches, Regex.Leftmost regex.machine brokenText.toList 0 stretches ∧ stretches.length = 3) := by
  have found : (Regex.compile brokenPattern).map (scan · brokenText) =
      .ok [⟨1, ""⟩, ⟨3, "xx"⟩, ⟨4, "xx"⟩] := by decide +kernel
  have begins : (Regex.compile brokenPattern).map
      (·.machine.lengthAt? (Regex.pointAt brokenText.toList 2)) = .ok (some 3) := by decide +kernel
  cases read : Regex.compile brokenPattern with
  | error error =>
      rw [read] at found
      contradiction
  | ok regex =>
      rw [read] at found begins
      have scanned : scan regex brokenText = [⟨1, ""⟩, ⟨3, "xx"⟩, ⟨4, "xx"⟩] := Except.ok.inj found
      obtain ⟨⟨stretches, leftmost, -, same⟩, occurs, -, -⟩ := scan_exact regex brokenText
      refine ⟨regex, rfl, scanned, (occurs _ read 2).1 3 (Except.ok.inj begins), stretches, leftmost, ?_⟩
      rw [← List.length_map, ← same, scanned]
      rfl

end Examples

end PatternMatch

end UiContract
