import UiContract.Proofs.AliasChoice
import UiContract.Proofs.Preparation

/-!
Which aliases of a configuration can be used. A specifier is cut at its first `?` or `#` before any alias
is looked for, so an alias that has none of the two is found wherever a specifier begins with it, and of
any other one only what stands in front of the mark is ever compared.
-/
namespace UiContract

namespace Text

theorem bare_append (test : Char → Bool) (front back : List Char) (bare : Bare test front)
    (written : front ≠ []) (solid : ∀ character ∈ back, test character = false) :
    Bare test (front ++ back) := by
  constructor
  · intro first found
    rw [List.head?_append_of_ne_nil front written] at found
    exact bare.1 first found
  · intro last found
    rw [List.getLast?_append] at found
    rcases Option.or_eq_some_iff.mp found with inBack | ⟨-, inFront⟩
    · exact solid last (List.mem_of_getLast? inBack)
    · exact bare.2 last inFront

end Text

namespace Resolver

open Text

def IsMark (character : Char) : Prop := character = '?' ∨ character = '#'

instance : DecidablePred IsMark := fun _ => inferInstanceAs (Decidable (_ ∨ _))

theorem clean_bare (written : String) (bare : Bare isBlank written.toList)
    (whole : ∀ character ∈ written.toList, ¬ IsMark character) : clean written = written.toList := by
  unfold clean before
  rw [dropEnds_of_bare isBlank _ bare]
  refine List.takeWhile_eq_self_iff.mpr fun character member => ?_
  simpa [IsMark] using whole character member

/-- Of a specifier with a mark only what stands in front of the first one is left. -/
theorem clean_cut (written : String) (bare : Bare isBlank written.toList) (front back : List Char)
    (mark : Char) (cut : written.toList = front ++ mark :: back) (marks : IsMark mark)
    (first : ∀ character ∈ front, ¬ IsMark character) : clean written = front := by
  unfold clean before
  rw [dropEnds_of_bare isBlank _ bare, cut]
  have kept : ∀ character ∈ front, (!(character == '?' || character == '#')) = true := by
    intro character member
    simpa [IsMark] using first character member
  have ends : (mark == '?' || mark == '#') = true := by
    simpa [IsMark] using marks
  rw [List.takeWhile_append_of_pos kept, List.takeWhile_cons, ends]
  exact List.append_nil front

theorem applies_iff {config : GateConfig} {root : Path} {resolver : Resolver}
    (made : make (config.resolverSettings root) = .ok resolver) (specifier : List Char) :
    (∀ entry ∈ resolver.aliases, ¬ Applies entry.1 specifier) ↔
      ∀ entry ∈ config.aliases.entries, ¬ Applies entry.1 specifier := by
  rw [(make_ok made).2]
  simp only [(perm_inTrialOrder _).mem_iff, List.forall_mem_map]
  rfl

end Resolver

open Resolver Text

/-- The aliases of an accepted configuration. What begins with one of them, where a piece of the
specifier ends, is no package, whatever file imports it, if the alias has neither `?` nor `#`. Of an
alias that has one of these only the part in front of the first one counts: the specifier is a package
exactly where no alias applies to that part and it is not relative. -/
theorem resolve_configured (config : GateConfig) (accepted : config.problem? = none) (root : Path) :
    ∃ resolver, make (config.resolverSettings root) = .ok resolver ∧
      ∀ shortcut target, (shortcut, target) ∈ config.aliases.entries →
      Bare isBlank shortcut.toList → ∀ rest : String,
      (∀ character ∈ rest.toList, ¬ IsMark character ∧ isBlank character = false) →
      (shortcut.toList.getLast? = some '/' ∨ rest = "" ∨ rest.toList.head? = some '/') →
      ∀ tree importer,
      ((∀ character ∈ shortcut.toList, ¬ IsMark character) →
        resolver.resolve tree importer (shortcut ++ rest) ≠ .external) ∧
      ∀ front mark back, shortcut.toList = front ++ mark :: back → IsMark mark →
        (∀ character ∈ front, ¬ IsMark character) →
        (resolver.resolve tree importer (shortcut ++ rest) = .external ↔
          (∀ entry ∈ config.aliases.entries, ¬ Applies entry.1 front) ∧ ¬ IsRelative front) := by
  have sensible := (GateConfig.problem_eq_none config).mp accepted
  obtain ⟨resolver, made, -⟩ := sensible.resolver root
  refine ⟨resolver, made, fun shortcut target listed bare rest solid ends tree importer => ?_⟩
  have named : shortcut.toList ≠ [] := by
    intro empty
    have known := config.aliases.contains_of_mem _ listed
    rw [String.toList_eq_nil_iff.mp empty, sensible.aliases] at known
    contradiction
  have bare' : Bare isBlank (shortcut ++ rest).toList := by
    rw [String.toList_append]
    exact bare_append isBlank _ _ bare named fun character member => (solid character member).2
  have external : resolver.resolve tree importer (shortcut ++ rest) = .external ↔
      (∀ entry ∈ config.aliases.entries, ¬ Applies entry.1 (clean (shortcut ++ rest))) ∧
        ¬ IsRelative (clean (shortcut ++ rest)) := by
    rw [resolve_external_iff, candidate_eq_none, applies_iff made]
  refine ⟨fun whole package => ?_, ?_⟩
  · obtain ⟨none, -⟩ := external.mp package
    -- The specifier is not cut, so the alias is found at its beginning.
    have kept : clean (shortcut ++ rest) = shortcut.toList ++ rest.toList := by
      rw [clean_bare _ bare', String.toList_append]
      intro character member
      rw [String.toList_append] at member
      rcases List.mem_append.mp member with inShortcut | inRest
      · exact whole character inShortcut
      · exact (solid character inRest).1
    refine none (shortcut, target) listed ⟨rest.toList, kept, ?_⟩
    rwa [String.toList_eq_nil_iff]
  · intro front mark back cut marks first
    rw [external, clean_cut _ bare' front (back ++ rest.toList) mark _ marks first]
    rw [String.toList_append, cut, List.append_assoc, List.cons_append]

def hashedConfig : GateConfig :=
  { schemaVersion := 1, sourceRoot := "src", entries := ["src/a.ts"], extensions := [".ts"]
    aliases := .ofList [("@/", "src/"), ("#/", "src/")] }

def hashedResolver : Resolver :=
  { root := ⟨"/"⟩, aliases := [("#/", ⟨"/src"⟩), ("@/", ⟨"/src"⟩)], extensions := [".ts"] }

theorem letter_solid : ∀ character ∈ "a".toList, ¬ IsMark character ∧ isBlank character = false := by
  intro character member
  obtain rfl := List.mem_singleton.mp member
  exact ⟨by decide, by decide⟩

theorem resolve_configured_hashed : hashedConfig.problem? = none ∧
    ∃ resolver, make (hashedConfig.resolverSettings ⟨"/"⟩) = .ok resolver ∧
      resolver.resolve queriedTree ⟨"/src/b.ts"⟩ ("@/" ++ "a") ≠ .external ∧
      resolver.resolve queriedTree ⟨"/src/b.ts"⟩ ("#/" ++ "a") = .external := by
  have accepted : hashedConfig.problem? = none := by decide
  obtain ⟨resolver, made, usable⟩ := resolve_configured hashedConfig accepted ⟨"/"⟩
  have whole : ∀ character ∈ ['@', '/'], ¬ IsMark character := by simp [IsMark]
  have named : ∀ entry ∈ hashedConfig.aliases.entries, entry.1 ≠ "" := by decide
  have none : ∀ entry ∈ hashedConfig.aliases.entries, ¬ Applies entry.1 [] := by
    rintro entry listed ⟨rest, empty, -⟩
    exact named entry listed (String.toList_eq_nil_iff.mp (List.append_eq_nil_iff.mp empty.symm).1)
  refine ⟨accepted, resolver, made, ?_, ?_⟩
  · exact (usable "@/" "src/" (by decide) (by decide) "a" letter_solid
      (.inl (by decide)) queriedTree ⟨"/src/b.ts"⟩).1 whole
  · refine ((usable "#/" "src/" (by decide) (by decide) "a" letter_solid
      (.inl (by decide)) queriedTree ⟨"/src/b.ts"⟩).2 [] '#' ['/'] (by decide) (.inr rfl)
      (by simp)).mpr ⟨none, ?_⟩
    simp [IsRelative]

/-- An alias that begins with `#` is accepted, and no import can use it. -/
theorem hashed_alias_external : hashedConfig.problem? = none ∧
    ("#/", "src/") ∈ hashedConfig.aliases.entries ∧ Bare isBlank "#/".toList ∧
    (∀ character ∈ "a".toList, ¬ IsMark character ∧ isBlank character = false) ∧
    "#/".toList.getLast? = some '/' ∧
    make (hashedConfig.resolverSettings ⟨"/"⟩) = .ok hashedResolver ∧
    hashedResolver.resolve queriedTree ⟨"/src/b.ts"⟩ ("#/" ++ "a") = .external := by
  exact ⟨by decide, by decide +kernel, by decide, letter_solid, by decide, by cbv,
    by decide⟩

end UiContract
