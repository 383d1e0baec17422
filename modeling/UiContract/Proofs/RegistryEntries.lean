import Mathlib.Data.List.Induction
import Mathlib.Data.List.Nodup
import UiContract.Proofs.SortedMap
import UiContract.Registry

/-!
The registry that `from_entries` makes of a list of entries. There is one exactly when no entry has an empty
name or that of an entry in front of it, where blanks around names do not count; otherwise the first entry
that has one is the reason. The registry finds every entry under its own name, in whatever order they are
listed.
-/
namespace UiContract

def RegistryEntry.listedName (entry : RegistryEntry) : String := Text.trim entry.name

namespace Registry

section Entries

/-- Entries that can be listed together: each has a name, and no two have the same one. -/
structure Listable (entries : List RegistryEntry) : Prop where
  named : ∀ entry ∈ entries, entry.listedName ≠ ""
  distinct : (entries.map RegistryEntry.listedName).Nodup

instance : DecidablePred Listable := fun entries =>
  decidable_of_iff ((∀ entry ∈ entries, entry.listedName ≠ "") ∧
    (entries.map RegistryEntry.listedName).Nodup)
    ⟨fun both => ⟨both.1, both.2⟩, fun listable => ⟨listable.named, listable.distinct⟩⟩

inductive Refusal (listed : List RegistryEntry) (entry : RegistryEntry) : RegistryError → Prop where
  | emptyName : entry.listedName = "" → Refusal listed entry .emptyName
  | duplicate : entry.listedName ≠ "" → entry.listedName ∈ listed.map RegistryEntry.listedName →
      Refusal listed entry (.duplicate entry.listedName)

variable {entries listed : List RegistryEntry} {entry : RegistryEntry}

theorem listable_concat : Listable (listed ++ [entry]) ↔ Listable listed ∧
    entry.listedName ≠ "" ∧ entry.listedName ∉ listed.map RegistryEntry.listedName := by
  constructor
  · rintro ⟨named, distinct⟩
    rw [List.map_append, List.map_singleton, List.nodup_append] at distinct
    obtain ⟨earlier, -, apart⟩ := distinct
    exact ⟨⟨fun other member => named other (List.mem_append_left _ member), earlier⟩,
      named entry (List.mem_append_right _ List.mem_cons_self),
      fun again => apart _ again _ List.mem_cons_self rfl⟩
  · rintro ⟨⟨named, distinct⟩, own, fresh⟩
    refine ⟨fun other member => ?_, ?_⟩
    · rcases List.mem_append.mp member with earlier | last
      · exact named other earlier
      · rwa [List.mem_singleton.mp last]
    · rw [List.map_append, List.map_singleton, List.nodup_append]
      refine ⟨distinct, List.nodup_singleton _, fun name member other last same => fresh ?_⟩
      rwa [← List.mem_singleton.mp last, ← same]

theorem Listable.perm {others : List RegistryEntry} (perm : others.Perm entries)
    (listable : Listable entries) : Listable others :=
  ⟨fun entry member => listable.named entry (perm.mem_iff.mp member),
    ((perm.map RegistryEntry.listedName).nodup_iff).mpr listable.distinct⟩

theorem Listable.front {rest : List RegistryEntry} (listable : Listable (listed ++ rest)) :
    Listable listed := by
  refine ⟨fun entry member => listable.named entry (List.mem_append_left _ member), ?_⟩
  have distinct := listable.distinct
  rw [List.map_append] at distinct
  exact (List.nodup_append.mp distinct).1

theorem Refusal.not_listable {error : RegistryError} (refused : Refusal listed entry error)
    (rest : List RegistryEntry) : ¬ Listable (listed ++ entry :: rest) := by
  intro listable
  rw [← List.singleton_append, ← List.append_assoc] at listable
  obtain ⟨-, named, fresh⟩ := listable_concat.mp listable.front
  cases refused with
  | emptyName nameless => exact named nameless
  | duplicate _ again => exact fresh again

end Entries

structure Holds (registry : Registry) (entries : List RegistryEntry) : Prop where
  find : ∀ name entry, registry.find? name = some entry ↔ entry ∈ entries ∧ entry.listedName = name
  size : registry.size = entries.length

variable {entries listed : List RegistryEntry} {entry : RegistryEntry} {registry larger : Registry}

theorem Holds.find_eq_none (holds : Holds registry entries) (name : String) :
    registry.find? name = none ↔ name ∉ entries.map RegistryEntry.listedName := by
  rw [Option.eq_none_iff_forall_ne_some]
  simp only [ne_eq, holds.find, List.mem_map, not_exists]

theorem Holds.contains (holds : Holds registry entries) (name : String) :
    registry.entries.contains name = true ↔ name ∈ entries.map RegistryEntry.listedName := by
  rw [← not_iff_not, ← holds.find_eq_none name]
  show ¬ (registry.find? name).isSome = true ↔ _
  simp

theorem Holds.unique {other : Registry} (holds : Holds registry entries)
    (holds' : Holds other listed) (same : ∀ entry, entry ∈ entries ↔ entry ∈ listed) :
    registry = other := by
  obtain ⟨map⟩ := registry
  obtain ⟨map'⟩ := other
  refine congrArg Registry.mk (SortedMap.eq_of_find map map' fun name => Option.ext fun entry => ?_)
  show Registry.find? ⟨map⟩ name = some entry ↔ Registry.find? ⟨map'⟩ name = some entry
  rw [holds.find, holds'.find, same]

section Step

variable (holds : Holds registry listed)

include holds

theorem add_error_iff (error : RegistryError) :
    registry.add entry = .error error ↔ Refusal listed entry error := by
  unfold add
  dsimp only
  rw [← RegistryEntry.listedName]
  constructor
  · intro refused
    split at refused
    · rename_i nameless
      obtain rfl := Except.error.inj refused
      exact .emptyName (beq_iff_eq.mp nameless)
    · rename_i named
      split at refused
      · rename_i known
        obtain rfl := Except.error.inj refused
        exact .duplicate (by simpa using named) ((holds.contains _).mp known)
      · contradiction
  · intro refused
    cases refused with
    | emptyName nameless => rw [if_pos (beq_iff_eq.mpr nameless)]
    | duplicate named again => rw [if_neg (by simpa using named), if_pos ((holds.contains _).mpr again)]

/-- An entry that is added is found under its name, and the others as before. -/
theorem add_ok (added : registry.add entry = .ok larger) : Holds larger (listed ++ [entry]) ∧
    entry.listedName ≠ "" ∧ entry.listedName ∉ listed.map RegistryEntry.listedName := by
  unfold add at added
  dsimp only at added
  rw [← RegistryEntry.listedName] at added
  split at added
  · contradiction
  · rename_i named
    split at added
    · contradiction
    · rename_i fresh
      obtain rfl := Except.ok.inj added
      have unlisted := (holds.contains _).not.mp fresh
      refine ⟨⟨fun name other => ?_, ?_⟩, by simpa using named, unlisted⟩
      · show (registry.entries.insert _ entry).find? name = some other ↔ _
        rw [SortedMap.find_insert, List.mem_append, List.mem_singleton]
        split
        · rename_i same
          obtain rfl : name = entry.listedName := Std.LawfulEqOrd.eq_of_compare same
          rw [Option.some.injEq]
          constructor
          · rintro rfl
            exact ⟨.inr rfl, rfl⟩
          · rintro ⟨earlier | rfl, same⟩
            · exact absurd (List.mem_map.mpr ⟨other, earlier, same⟩) unlisted
            · rfl
        · rename_i apart
          refine (holds.find name other).trans (and_congr_left fun same => ?_)
          refine (or_iff_left ?_).symm
          rintro rfl
          exact apart (by rw [same]; exact Std.ReflCmp.compare_self)
      · show (registry.entries.insert _ entry).size = _
        rw [SortedMap.size_insert_of_fresh _ _ _ (by simpa using fresh), List.length_append]
        exact congrArg (· + 1) holds.size

end Step

theorem ofEntries_concat (entries : List RegistryEntry) (entry : RegistryEntry) :
    ofEntries (entries ++ [entry]) = (ofEntries entries).bind fun registry => registry.add entry := by
  unfold ofEntries
  rw [List.foldlM_append]
  refine congrArg (Except.bind _) (funext fun registry => ?_)
  rw [List.foldlM_cons]
  cases registry.add entry <;> rfl

theorem ofEntries_cases (entries : List RegistryEntry) :
    (∃ registry, ofEntries entries = .ok registry ∧ Holds registry entries ∧ Listable entries) ∨
      ∃ error front entry back, ofEntries entries = .error error ∧
        entries = front ++ entry :: back ∧ Listable front ∧ Refusal front entry error := by
  -- From the end of the list, since the registry that an entry is added to holds those in front of it.
  induction entries using List.reverseRecOn with
  | nil => exact .inl ⟨{}, rfl, ⟨fun _ _ => ⟨nofun, nofun⟩, rfl⟩, ⟨nofun, .nil⟩⟩
  | append_singleton front entry ih =>
      rw [ofEntries_concat]
      rcases ih with ⟨registry, made, holds, listable⟩ |
        ⟨error, first, refused, back, made, rfl, listable, refusal⟩
      · rw [made]
        cases added : registry.add entry with
        | ok larger =>
            obtain ⟨holds', own⟩ := add_ok holds added
            exact .inl ⟨larger, added, holds', listable_concat.mpr ⟨listable, own⟩⟩
        | error error =>
            exact .inr ⟨error, front, entry, [], added, rfl, listable, (add_error_iff holds error).mp added⟩
      · rw [made]
        exact .inr ⟨error, first, refused, back ++ [entry], rfl, by simp, listable, refusal⟩

theorem ofEntries_of_listable (listable : Listable entries) :
    ∃ registry, ofEntries entries = .ok registry ∧ Holds registry entries := by
  rcases ofEntries_cases entries with ⟨registry, made, holds, -⟩ | ⟨_, front, entry, back, _, rfl, -, refused⟩
  · exact ⟨registry, made, holds⟩
  · exact absurd listable (refused.not_listable back)

theorem ofEntries_ok (made : ofEntries entries = .ok registry) :
    Listable entries ∧ Holds registry entries := by
  rcases ofEntries_cases entries with ⟨other, made', holds, listable⟩ | ⟨error, _, _, _, made', -⟩
  · obtain rfl := Except.ok.inj (made.symm.trans made')
    exact ⟨listable, holds⟩
  · exact nomatch made.symm.trans made'

theorem ofEntries_refused {error : RegistryError} (listable : Listable listed)
    (refused : Refusal listed entry error) (back : List RegistryEntry) :
    ofEntries (listed ++ entry :: back) = .error error := by
  obtain ⟨registry, made, holds⟩ := ofEntries_of_listable listable
  unfold ofEntries at made ⊢
  rw [List.foldlM_append, made]
  show (List.foldlM add registry (entry :: back)) = _
  rw [List.foldlM_cons, (add_error_iff holds error).mpr refused]
  rfl

/-- There is a registry of a list of entries exactly when they can be listed together. Otherwise the
first one that cannot be listed behind those in front of it says why there is none. The registry has as
many entries as the list, finds under each name the entry that is listed under it, and is the same for
every order of the list. -/
theorem ofEntries_exact (entries : List RegistryEntry) :
    ((∃ registry, ofEntries entries = .ok registry) ↔ Listable entries) ∧
    (∀ error, ofEntries entries = .error error ↔ ∃ front entry back,
      entries = front ++ entry :: back ∧ Listable front ∧ Refusal front entry error) ∧
    ∀ registry, ofEntries entries = .ok registry →
      registry.size = entries.length ∧
      (∀ name entry, registry.find? name = some entry ↔
        entry ∈ entries ∧ Text.trim entry.name = name) ∧
      (∀ name, registry.find? name = none ↔ ∀ entry ∈ entries, Text.trim entry.name ≠ name) ∧
      ∀ others : List RegistryEntry, others.Perm entries → ofEntries others = .ok registry := by
  refine ⟨⟨?_, ?_⟩, fun error => ⟨fun made => ?_, ?_⟩, fun registry made => ?_⟩
  · rintro ⟨registry, made⟩
    exact (ofEntries_ok made).1
  · intro listable
    obtain ⟨registry, made, -⟩ := ofEntries_of_listable listable
    exact ⟨registry, made⟩
  · rcases ofEntries_cases entries with ⟨registry, made', -⟩ | ⟨_, front, entry, back, made', split⟩
    · exact nomatch made.symm.trans made'
    · obtain rfl := Except.error.inj (made.symm.trans made')
      exact ⟨front, entry, back, split⟩
  · rintro ⟨front, entry, back, rfl, listable, refused⟩
    exact ofEntries_refused listable refused back
  · obtain ⟨listable, holds⟩ := ofEntries_ok made
    refine ⟨holds.size, holds.find, fun name => ?_, fun others perm => ?_⟩
    · rw [holds.find_eq_none, List.mem_map]
      simp only [not_exists, not_and]
      rfl
    · obtain ⟨other, made', holds'⟩ := ofEntries_of_listable (listable.perm perm)
      rw [made', holds.unique holds' fun entry => perm.mem_iff.symm]

def spacedEntries : List RegistryEntry :=
  [{ name := " Old ", status := .legacy }, { name := "New", status := .canonical }]

theorem ofEntries_exact_spaced : ∃ registry, ofEntries spacedEntries = .ok registry ∧
    registry.size = 2 ∧ registry.find? "Old" = some { name := " Old ", status := .legacy } ∧
    registry.find? " Old " = none ∧ ofEntries spacedEntries.reverse = .ok registry := by
  obtain ⟨made, -, found⟩ := ofEntries_exact spacedEntries
  obtain ⟨registry, made⟩ := made.mpr (by decide)
  obtain ⟨size, find, missing, order⟩ := found registry made
  exact ⟨registry, made, size, (find _ _).mpr ⟨by decide, by decide +kernel⟩,
    (missing _).mpr (by decide), order _ spacedEntries.reverse_perm⟩

end Registry

end UiContract
