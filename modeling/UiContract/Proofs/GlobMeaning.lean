import Mathlib.Data.List.Basic
import UiContract.Glob

/-!
What a pattern of a glob means: `Fits` says which bytes it stands for, part by part, without following
what is left of an input. A pattern accepts exactly what fits it.
-/
namespace UiContract.Glob.Pattern

def Fits : Pattern → List UInt8 → Prop
  | nothing, bytes => bytes = []
  | byte accepted, bytes => ∃ value, bytes = [value] ∧ accepted.accepts value = true
  | run accepted, bytes => ∀ value ∈ bytes, accepted.accepts value = true
  | both first second, bytes => ∃ front back, bytes = front ++ back ∧ first.Fits front ∧
      second.Fits back
  | either first second, bytes => first.Fits bytes ∨ second.Fits bytes

section Remainders

theorem mem_runRemainders (accepted : ByteSet) (input rest : List UInt8) :
    rest ∈ runRemainders accepted input ↔
      ∃ used, input = used ++ rest ∧ ∀ value ∈ used, accepted.accepts value = true := by
  induction input with
  | nil =>
      rw [runRemainders, List.mem_singleton]
      constructor
      · rintro rfl
        exact ⟨[], rfl, nofun⟩
      · rintro ⟨used, whole, -⟩
        exact (List.append_eq_nil_iff.mp whole.symm).2
  | cons head tail ih =>
      rw [runRemainders, List.mem_cons]
      constructor
      · rintro (rfl | later)
        · exact ⟨[], rfl, nofun⟩
        · split at later
          · rename_i inside
            obtain ⟨used, rfl, all⟩ := ih.mp later
            exact ⟨head :: used, rfl, List.forall_mem_cons.mpr ⟨inside, all⟩⟩
          · contradiction
      · rintro ⟨used, whole, all⟩
        cases used with
        | nil => exact .inl whole.symm
        | cons first used =>
            obtain ⟨rfl, rfl⟩ := List.cons.inj whole
            obtain ⟨inside, all⟩ := List.forall_mem_cons.mp all
            rw [if_pos inside]
            exact .inr (ih.mpr ⟨used, rfl, all⟩)

theorem distinct_subset (remainders : List (List UInt8)) :
    ∀ rest ∈ distinct remainders, rest ∈ remainders := by
  induction remainders with
  | nil => exact fun _ => id
  | cons head tail ih =>
      intro rest member
      rw [distinct, List.foldr_cons, ← distinct] at member
      split at member
      · exact List.mem_cons_of_mem head (ih rest member)
      · rcases List.mem_cons.mp member with rfl | later
        · exact List.mem_cons_self
        · exact List.mem_cons_of_mem head (ih rest later)

theorem distinct_length (remainders : List (List UInt8)) :
    ∀ rest ∈ remainders, ∃ other ∈ distinct remainders, other.length = rest.length := by
  induction remainders with
  | nil => nofun
  | cons head tail ih =>
      intro rest member
      rw [distinct, List.foldr_cons, ← distinct]
      split
      · rename_i known
        rcases List.mem_cons.mp member with rfl | later
        · simpa using known
        · exact ih rest later
      · rcases List.mem_cons.mp member with rfl | later
        · exact ⟨rest, List.mem_cons_self, rfl⟩
        · obtain ⟨other, listed, same⟩ := ih rest later
          exact ⟨other, List.mem_cons_of_mem head listed, same⟩

theorem mem_distinct {whole : List UInt8} {remainders : List (List UInt8)}
    (ends : ∀ rest ∈ remainders, rest <:+ whole) (rest : List UInt8) :
    rest ∈ distinct remainders ↔ rest ∈ remainders := by
  refine ⟨distinct_subset remainders rest, fun member => ?_⟩
  obtain ⟨other, listed, same⟩ := distinct_length remainders rest member
  have suffix := ends other (distinct_subset remainders other listed)
  have equal := (List.suffix_of_suffix_length_le suffix (ends rest member)
    (Nat.le_of_eq same)).eq_of_length same
  rwa [← equal]

/-- What a pattern leaves of some ends of an input is what stands behind bytes that fit it. -/
theorem mem_remainders (pattern : Pattern) {whole : List UInt8} {inputs : List (List UInt8)}
    (ends : ∀ input ∈ inputs, input <:+ whole) (rest : List UInt8) :
    rest ∈ pattern.remainders inputs ↔
      ∃ input ∈ inputs, ∃ used, input = used ++ rest ∧ pattern.Fits used := by
  -- Several ends are cut at once, so what is left has to be told apart as ends of the whole input.
  have within : ∀ (pattern : Pattern) (inputs : List (List UInt8)) (rest : List UInt8),
      (∀ input ∈ inputs, input <:+ whole) →
      (∃ input ∈ inputs, ∃ used, input = used ++ rest ∧ pattern.Fits used) → rest <:+ whole := by
    rintro pattern inputs rest ends ⟨_, listed, used, rfl, -⟩
    exact (List.suffix_append used rest).trans (ends _ listed)
  induction pattern generalizing inputs rest with
  | nothing =>
      rw [remainders]
      constructor
      · exact fun member => ⟨rest, member, [], rfl, rfl⟩
      · rintro ⟨_, member, used, rfl, rfl⟩
        exact member
  | byte accepted =>
      rw [remainders, List.mem_filterMap]
      refine exists_congr fun input => and_congr_right fun _ => ?_
      constructor
      · intro taken
        cases input with
        | nil => contradiction
        | cons first others =>
            obtain ⟨inside, same⟩ := Option.ite_none_right_eq_some.mp taken
            exact ⟨[first], by rw [Option.some.inj same]; rfl, first, rfl, inside⟩
      · rintro ⟨_, rfl, value, rfl, inside⟩
        exact if_pos inside
  | run accepted =>
      have behind : ∀ rest, rest ∈ inputs.flatMap (runRemainders accepted) ↔
          ∃ input ∈ inputs, ∃ used, input = used ++ rest ∧ (run accepted).Fits used := by
        intro rest
        rw [List.mem_flatMap]
        simp only [mem_runRemainders]
        rfl
      rw [remainders, mem_distinct, behind]
      exact fun rest member => within (run accepted) inputs rest ends ((behind rest).mp member)
  | both first second ih ih' =>
      rw [remainders]
      refine (ih' (fun middle member => ?_) rest).trans ?_
      · exact within first inputs middle ends ((ih ends middle).mp member)
      · constructor
        · rintro ⟨_, member, used, rfl, fits⟩
          obtain ⟨_, listed, front, rfl, fits'⟩ := (ih ends _).mp member
          exact ⟨_, listed, front ++ used, (List.append_assoc ..).symm, front, used, rfl, fits', fits⟩
        · rintro ⟨_, listed, _, rfl, front, back, rfl, left, right⟩
          exact ⟨_, (ih ends _).mpr ⟨_, listed, front, List.append_assoc .., left⟩, back, rfl, right⟩
  | either first second ih ih' =>
      have behind : ∀ rest, rest ∈ first.remainders inputs ++ second.remainders inputs ↔
          ∃ input ∈ inputs, ∃ used, input = used ++ rest ∧ (either first second).Fits used := by
        intro rest
        refine List.mem_append.trans ((or_congr (ih ends rest) (ih' ends rest)).trans ?_)
        simp only [Fits, and_or_left, exists_or]
      rw [remainders, mem_distinct, behind]
      exact fun rest member =>
        within (either first second) inputs rest ends ((behind rest).mp member)

theorem accepts_iff (pattern : Pattern) (input : List UInt8) :
    pattern.accepts input = true ↔ pattern.Fits input := by
  have ends : ∀ rest ∈ [input], rest <:+ input := by simp
  have behind := pattern.mem_remainders ends []
  have left : pattern.accepts input = true ↔ [] ∈ pattern.remainders [input] := by
    simp [accepts]
  rw [left, behind]
  simp

end Remainders

section Sequences

theorem fits_followedBy (first second : Pattern) (bytes : List UInt8) :
    (first.followedBy second).Fits bytes ↔
      ∃ front back, bytes = front ++ back ∧ first.Fits front ∧ second.Fits back := by
  unfold followedBy
  split
  · constructor
    · exact fun fits => ⟨[], bytes, rfl, rfl, fits⟩
    · rintro ⟨_, back, rfl, rfl, fits⟩
      exact fits
  · constructor
    · exact fun fits => ⟨bytes, [], (List.append_nil bytes).symm, fits, rfl⟩
    · rintro ⟨front, _, rfl, fits, rfl⟩
      rwa [List.append_nil]
  · rfl

theorem fits_append (front back : List Pattern) (bytes : List UInt8) :
    (sequence (front ++ back)).Fits bytes ↔ ∃ used rest, bytes = used ++ rest ∧
      (sequence front).Fits used ∧ (sequence back).Fits rest := by
  induction front generalizing bytes with
  | nil =>
      constructor
      · exact fun fits => ⟨[], bytes, rfl, rfl, fits⟩
      · rintro ⟨_, rest, rfl, rfl, fits⟩
        exact fits
  | cons first front ih =>
      show (first.followedBy (sequence (front ++ back))).Fits bytes ↔
        ∃ used rest, bytes = used ++ rest ∧ (first.followedBy (sequence front)).Fits used ∧ _
      simp only [fits_followedBy, ih]
      constructor
      · rintro ⟨start, _, rfl, fits, middle, rest, rfl, fits', fits''⟩
        exact ⟨start ++ middle, rest, (List.append_assoc ..).symm,
          ⟨start, middle, rfl, fits, fits'⟩, fits''⟩
      · rintro ⟨_, rest, rfl, ⟨start, middle, rfl, fits, fits'⟩, fits''⟩
        exact ⟨start, middle ++ rest, List.append_assoc .., fits, middle, rest, rfl, fits', fits''⟩

theorem fits_cons (first : Pattern) (patterns : List Pattern) (bytes : List UInt8) :
    (sequence (first :: patterns)).Fits bytes ↔ ∃ front back, bytes = front ++ back ∧
      first.Fits front ∧ (sequence patterns).Fits back :=
  fits_followedBy first (sequence patterns) bytes

theorem fits_exactly (wanted bytes : List UInt8) : (exactly wanted).Fits bytes ↔ bytes = wanted := by
  induction wanted generalizing bytes with
  | nil => rfl
  | cons value wanted ih =>
      have single : ∀ other : UInt8,
          (ByteSet.mk false [(value, value)]).accepts other = true ↔ other = value := by
        intro other
        simp only [ByteSet.accepts, List.any_cons, List.any_nil, Bool.or_false, Bool.bne_false,
          Bool.and_eq_true, decide_eq_true_eq]
        exact ⟨fun bounds => UInt8.le_antisymm bounds.2 bounds.1,
          fun same => same ▸ ⟨UInt8.le_refl _, UInt8.le_refl _⟩⟩
      refine (fits_cons _ (wanted.map _) bytes).trans ?_
      simp only [show (sequence (wanted.map fun value => byte ⟨false, [(value, value)]⟩)) =
        exactly wanted from rfl, ih, Fits, single]
      constructor
      · rintro ⟨_, _, rfl, ⟨_, rfl, rfl⟩, rfl⟩
        rfl
      · rintro rfl
        exact ⟨[value], wanted, rfl, ⟨value, rfl, rfl⟩, rfl⟩

end Sequences

end UiContract.Glob.Pattern
