import Mathlib.Data.List.Forall2
import UiContract.PathGlobs
import UiContract.Proofs.GlobMeaning

/-!
Lists of globs. A list can be read where each of its globs can and the engine takes them as a set, and it
accepts what one of them accepts; so neither the order of the globs nor how often one is listed matters for
what is accepted.
-/
namespace UiContract

theorem mapM_ok_iff {Item Value Reason : Type} (read : Item → Except Reason Value)
    (items : List Item) (values : List Value) : items.mapM read = .ok values ↔
      List.Forall₂ (fun item value => read item = .ok value) items values := by
  induction items generalizing values with
  | nil =>
      cases values with
      | nil => exact ⟨fun _ => .nil, fun _ => rfl⟩
      | cons value rest => exact ⟨nofun, nofun⟩
  | cons item rest ih =>
      rw [List.mapM_cons]
      cases first : read item with
      | error reason =>
          refine ⟨nofun, fun all => ?_⟩
          cases all with
          | cons head tail =>
              rw [first] at head
              contradiction
      | ok value =>
          cases others : rest.mapM read with
          | error reason =>
              refine ⟨nofun, fun all => ?_⟩
              cases all with
              | cons head tail =>
                  rw [(ih _).mpr tail] at others
                  contradiction
          | ok more =>
              constructor
              · intro same
                obtain rfl := Except.ok.inj same
                exact .cons first ((ih more).mp others)
              · intro all
                cases all with
                | cons head tail =>
                    obtain rfl := Except.ok.inj (first.symm.trans head)
                    obtain rfl := Except.ok.inj (others.symm.trans ((ih _).mpr tail))
                    rfl

theorem exists_of_forall₂ {Item Value : Type} {relates : Item → Value → Prop} {items : List Item}
    {values : List Value} (each : List.Forall₂ relates items values) {item : Item} (member : item ∈ items) :
    ∃ value ∈ values, relates item value := by
  obtain ⟨i, at_, rfl⟩ := List.getElem_of_mem member
  have at' := each.length_eq ▸ at_
  exact ⟨values[i], List.getElem_mem at', each.get at_ at'⟩

theorem mapM_ok_exists_iff {Item Value Reason : Type} (read : Item → Except Reason Value)
    (items : List Item) : (∃ values, items.mapM read = .ok values) ↔
      ∀ item ∈ items, ∃ value, read item = .ok value := by
  simp only [mapM_ok_iff]
  constructor
  · rintro ⟨values, each⟩ item member
    obtain ⟨value, -, same⟩ := exists_of_forall₂ each member
    exact ⟨value, same⟩
  · intro each
    induction items with
    | nil => exact ⟨[], .nil⟩
    | cons item rest ih =>
        obtain ⟨⟨value, first⟩, others⟩ := List.forall_mem_cons.mp each
        obtain ⟨values, more⟩ := ih others
        exact ⟨value :: values, .cons first more⟩

theorem ok_getD_of_isOk {Reason Value : Type} {result : Except Reason Value} (succeeds : result.isOk = true)
    (other : Value) : result = .ok (result.toOption.getD other) := by
  cases result with
  | ok value => rfl
  | error reason => exact nomatch succeeds

namespace PathGlobs

variable {patterns : List String} {globs : PathGlobs}

def Builds [Engine] (patterns : List Glob.Pattern) : Prop :=
  patterns = [] ∨ Engine.globFault? patterns = none

theorem build_ok [Engine] {patterns : List Glob.Pattern} :
    build patterns = .ok globs ↔ Builds patterns ∧ globs = ⟨patterns⟩ := by
  unfold Builds
  cases patterns with
  | nil => simp [build, eq_comm]
  | cons first others =>
      rw [build]
      cases Engine.globFault? (first :: others) with
      | none => simp [eq_comm]
      | some reason => simp

theorem build_error [Engine] {patterns : List Glob.Pattern} {refusal : Refusal}
    (refused : build patterns = .error refusal) : ∃ reason, refusal = .set reason := by
  cases patterns with
  | nil => exact nomatch refused
  | cons first others =>
      rw [build] at refused
      cases fault : Engine.globFault? (first :: others) with
      | none =>
          rw [fault] at refused
          exact nomatch refused
      | some reason =>
          rw [fault] at refused
          exact ⟨reason, (Except.error.inj refused).symm⟩

theorem compile_ok [Engine] : compile patterns = .ok globs ↔ ∃ read : List (Option Glob.Pattern),
    List.Forall₂ (fun glob pattern => compileOne glob = .ok pattern) patterns read ∧
      Builds (read.filterMap id) ∧ globs = ⟨read.filterMap id⟩ := by
  simp only [← mapM_ok_iff, ← build_ok]
  unfold compile
  cases patterns.mapM compileOne with
  | error refusal => exact ⟨nofun, fun ⟨_, failed, _⟩ => nomatch failed⟩
  | ok read =>
      constructor
      · exact fun built => ⟨read, rfl, built⟩
      · rintro ⟨_, same, built⟩
        rw [Except.ok.inj same]
        exact built

theorem compile_single [Engine] {glob : String} : compile [glob] = .ok globs ↔
    ∃ pattern, compileOne glob = .ok pattern ∧ Builds pattern.toList ∧ globs = ⟨pattern.toList⟩ := by
  have alone : ∀ pattern : Option Glob.Pattern, [pattern].filterMap id = pattern.toList := by
    rintro (_ | _) <;> rfl
  rw [compile_ok]
  constructor
  · rintro ⟨read, each, built⟩
    cases each with
    | @cons _ pattern _ _ first others =>
        cases others
        rw [alone] at built
        exact ⟨pattern, first, built⟩
  · rintro ⟨pattern, read, built⟩
    rw [← alone] at built
    exact ⟨[pattern], .cons read .nil, built⟩

theorem compile_single_or [Engine] {glob : String} {pattern : Glob.Pattern}
    (read : compileOne glob = .ok (some pattern)) :
    compile [glob] = .ok ⟨[pattern]⟩ ∨ ∃ reason, compile [glob] = .error (.set reason) := by
  have built : compile [glob] = build [pattern] := by
    unfold compile
    rw [List.mapM_cons, List.mapM_nil, read]
    rfl
  rw [built, build]
  cases Engine.globFault? [pattern] with
  | none => exact .inl rfl
  | some reason => exact .inr ⟨reason, rfl⟩

def Accepts (glob path : String) : Prop :=
  ∃ pattern, compileOne glob = .ok (some pattern) ∧
    pattern.accepts (Text.encode (PathFilter.normalize path).toList) = true

theorem accepts_compiled [Engine] (compiled : compile patterns = .ok globs) (path : String) :
    globs.accepts path = true ↔ ∃ glob ∈ patterns, Accepts glob path := by
  obtain ⟨read, each, -, rfl⟩ := compile_ok.mp compiled
  unfold accepts
  dsimp only
  rw [List.any_eq_true]
  -- The induction is on the globs together with what each of them was read as.
  clear compiled
  induction each with
  | nil => simp
  | @cons glob pattern rest more first others ih =>
      rw [List.exists_mem_cons_iff, ← ih, Accepts, first]
      cases pattern <;> simp

theorem accepts_single [Engine] {glob : String} (compiled : compile [glob] = .ok globs) (path : String) :
    globs.accepts path = true ↔ Accepts glob path := by
  simp [accepts_compiled compiled]

theorem compileOne_some (glob : String) (pattern : Glob.Pattern) : compileOne glob = .ok (some pattern) ↔
    PathFilter.normalize glob ≠ "" ∧ Glob.parse (PathFilter.normalize glob).toList = .ok pattern := by
  unfold compileOne
  dsimp only
  by_cases blank : PathFilter.normalize glob = ""
  · rw [if_pos (beq_iff_eq.mpr blank)]
    exact iff_of_false nofun fun both => both.1 blank
  · rw [if_neg (mt beq_iff_eq.mp blank)]
    split
    · rename_i read parsed
      rw [parsed]
      simp [blank]
    · rename_i reason failed
      rw [failed]
      exact iff_of_false nofun nofun

theorem compileOne_blank {glob : String} {pattern : Option Glob.Pattern}
    (read : compileOne glob = .ok pattern) : pattern = none ↔ PathFilter.normalize glob = "" := by
  unfold compileOne at read
  dsimp only at read
  by_cases blank : PathFilter.normalize glob = ""
  · rw [if_pos (beq_iff_eq.mpr blank)] at read
    exact iff_of_true (Except.ok.inj read).symm blank
  · rw [if_neg (mt beq_iff_eq.mp blank)] at read
    split at read
    · exact iff_of_false (Except.ok.inj read ▸ Option.some_ne_none _) blank
    · exact nomatch read

/-- One glob accepts what its pattern fits in the compared form; a blank one accepts nothing. -/
theorem accepts_iff [Engine] {glob : String} (compiled : compile [glob] = .ok globs) (path : String) :
    globs.accepts path = true ↔ PathFilter.normalize glob ≠ "" ∧
      ∃ pattern, Glob.parse (PathFilter.normalize glob).toList = .ok pattern ∧
        pattern.Fits (Text.encode (PathFilter.normalize path).toList) := by
  obtain ⟨pattern, read, -, rfl⟩ := compile_single.mp compiled
  cases pattern with
  | none =>
      have blank := (compileOne_blank read).mp rfl
      exact iff_of_false Bool.false_ne_true fun both => both.1 blank
  | some pattern =>
      obtain ⟨named, parsed⟩ := (compileOne_some glob pattern).mp read
      rw [parsed]
      simp [accepts, named, Glob.Pattern.accepts_iff]

theorem isEmpty_compiled [Engine] (compiled : compile patterns = .ok globs) :
    globs.isEmpty = true ↔ ∀ glob ∈ patterns, PathFilter.normalize glob = "" := by
  obtain ⟨read, each, -, rfl⟩ := compile_ok.mp compiled
  unfold isEmpty
  dsimp only
  rw [List.isEmpty_iff, List.filterMap_eq_nil_iff]
  clear compiled
  induction each with
  | nil => simp
  | cons first others ih =>
      rw [List.forall_mem_cons, List.forall_mem_cons, ih, id, compileOne_blank first]

end PathGlobs

end UiContract
