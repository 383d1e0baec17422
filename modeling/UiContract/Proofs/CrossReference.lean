import Mathlib.Data.List.Count
import Mathlib.Data.List.Nodup
import UiContract.CrossReference
import UiContract.Proofs.SortedMap

/-!
When two tables agree, as `validate` sees it. Blueprints and data each name pairs of a route and a key; the
errors are exactly the pairs that only one side names, the names that lead nowhere and the keys without
owners, each of them once. Warnings are about blueprints alone and say nothing about agreement.
-/
namespace UiContract.CrossReference

def Lists (blueprints : BlueprintTable) (route key : String) : Prop :=
  ∃ blueprint, blueprints.find? route = some blueprint ∧ key ∈ blueprint.sharedKeys

def Owns (shared : SharedDataTable) (route key : String) : Prop :=
  ∃ datum, shared.find? key = some datum ∧ route ∈ datum.ownerRoutes

namespace Disagreement

def Holds (blueprints : BlueprintTable) (shared : SharedDataTable) : Disagreement → Prop
  | unknownKey route key => Lists blueprints route key ∧ shared.find? key = none
  | missingOwner route key =>
      Lists blueprints route key ∧ (shared.find? key).isSome = true ∧ ¬ Owns shared route key
  | ownerless key => ∃ datum, shared.find? key = some datum ∧ datum.ownerRoutes = []
  | unknownOwner route key => Owns shared route key ∧ blueprints.find? route = none
  | missingKey route key =>
      Owns shared route key ∧ (blueprints.find? route).isSome = true ∧
        ¬ Lists blueprints route key

def route? : Disagreement → Option String
  | unknownKey route _ | missingOwner route _ | unknownOwner route _ | missingKey route _ =>
      some route
  | ownerless _ => none

def key : Disagreement → String
  | unknownKey _ key | missingOwner _ key | ownerless key | unknownOwner _ key
  | missingKey _ key => key

section Texts

theorem withHint_text (violation : Violation) (first : Char) (hint : String)
    (begins : hint.toList.head? = some first) (visible : Text.isBlank first = false) :
    violation.withHint hint = { violation with hint := some hint } := by
  unfold Violation.withHint Text.isBlankText
  cases written : hint.toList with
  | nil => simp [written] at begins
  | cons head rest =>
      have same : head = first := by simpa [written] using begins
      simp [same, visible]

theorem violation_unknownKey (route key : String) :
    (unknownKey route key).violation =
      { rule := .crossRef, subject := route, level := .error,
        message := "blueprint references unknown shared key " ++ key,
        hint := some "Add the key to the shared data table or drop it from the blueprint" } :=
  withHint_text _ 'A' _ (by decide) (by decide)

theorem violation_missingOwner (route key : String) :
    (missingOwner route key).violation =
      { rule := .crossRef, subject := route, level := .error,
        message := "blueprint references " ++ key ++ " but " ++ key ++ " omits " ++ route ++
          " as owner",
        hint := some ("Add " ++ route ++ " to " ++ key ++ ".owner_routes") } :=
  withHint_text _ 'A' _ (by simp [String.toList_append]) (by decide)

theorem violation_missingKey (route key : String) :
    (missingKey route key).violation =
      { rule := .crossRef, subject := key, level := .error,
        message := "owner route " ++ route ++ " omits " ++ key,
        hint := some ("List " ++ key ++ " in the " ++ route ++ " blueprint's shared_keys") } :=
  withHint_text _ 'L' _ (by simp [String.toList_append]) (by decide)

theorem violation_error (disagreement : Disagreement) :
    disagreement.violation.isError = true := by
  cases disagreement with
  | unknownKey route key => rw [violation_unknownKey]; rfl
  | missingOwner route key => rw [violation_missingOwner]; rfl
  | missingKey route key => rw [violation_missingKey]; rfl
  | ownerless key => rfl
  | unknownOwner route key => rfl

def mark (violation : Violation) : Option (Option Char × Option Char) × Option Char :=
  (violation.hint.map fun hint => (hint.toList.head?, hint.toList.getLast?),
    violation.message.toList.head?)

theorem getLast_append (front back : String) (last : Char)
    (ends : back.toList.getLast? = some last) : (front ++ back).toList.getLast? = some last := by
  rw [String.toList_append, List.getLast?_append, ends]
  rfl

theorem mark_unknownKey (route key : String) :
    mark (unknownKey route key).violation = (some (some 'A', some 't'), some 'b') := by
  rw [violation_unknownKey]
  simp [mark, String.toList_append]

theorem mark_missingOwner (route key : String) :
    mark (missingOwner route key).violation = (some (some 'A', some 's'), some 'b') := by
  rw [violation_missingOwner, mark, Option.map_some, getLast_append _ _ 's' (by decide)]
  simp [String.toList_append]

theorem mark_missingKey (route key : String) :
    mark (missingKey route key).violation = (some (some 'L', some 's'), some 'o') := by
  rw [violation_missingKey, mark, Option.map_some, getLast_append _ _ 's' (by decide)]
  simp [String.toList_append]

theorem mark_ownerless (key : String) : mark (ownerless key).violation = (none, some 's') := by
  simp [mark, violation, Violation.error, String.toList_append]

theorem mark_unknownOwner (route key : String) :
    mark (unknownOwner route key).violation = (none, some 'o') := by
  simp [mark, violation, Violation.error, String.toList_append]

theorem violation_injective : Function.Injective violation := by
  intro first second same
  have marks := congrArg mark same
  cases first <;> cases second <;>
    simp only [mark_unknownKey, mark_missingOwner, mark_missingKey, mark_ownerless,
      mark_unknownOwner, Prod.mk.injEq, Option.some.injEq, Char.reduceEq, reduceCtorEq, and_false,
      false_and] at marks
  case unknownKey.unknownKey route key route' key' =>
    rw [violation_unknownKey, violation_unknownKey] at same
    injection same with _ subject _ message
    rw [subject, (String.append_right_inj _).mp message]
  case missingOwner.missingOwner route key route' key' =>
    rw [violation_missingOwner, violation_missingOwner] at same
    injection same with _ subject _ _ hint
    subst subject
    have keys := (String.append_left_inj _).mp (Option.some.inj hint)
    rw [(String.append_right_inj _).mp keys]
  case ownerless.ownerless key key' =>
    injection same with _ subject
    rw [subject]
  case unknownOwner.unknownOwner route key route' key' =>
    injection same with _ subject _ message
    have routes := (String.append_left_inj _).mp message
    rw [subject, (String.append_right_inj _).mp routes]
  case missingKey.missingKey route key route' key' =>
    rw [violation_missingKey, violation_missingKey] at same
    injection same with _ subject _ message
    subst subject
    have routes := (String.append_left_inj _).mp ((String.append_left_inj _).mp message)
    rw [(String.append_right_inj _).mp routes]

end Texts

end Disagreement

section Reports

variable (blueprints : BlueprintTable) (shared : SharedDataTable)

theorem keyDisagreement_eq_some (route key : String) (disagreement : Disagreement) :
    keyDisagreement? shared route key = some disagreement ↔
      (disagreement = .unknownKey route key ∧ shared.find? key = none) ∨
      (disagreement = .missingOwner route key ∧ (shared.find? key).isSome = true ∧
        ¬ Owns shared route key) := by
  unfold keyDisagreement? Owns
  cases known : shared.find? key with
  | none => simp [eq_comm]
  | some datum =>
      by_cases owned : route ∈ datum.ownerRoutes <;> simp [owned, eq_comm]

theorem ownerDisagreement_eq_some (key owner : String) (disagreement : Disagreement) :
    ownerDisagreement? blueprints key owner = some disagreement ↔
      (disagreement = .unknownOwner owner key ∧ blueprints.find? owner = none) ∨
      (disagreement = .missingKey owner key ∧ (blueprints.find? owner).isSome = true ∧
        ¬ Lists blueprints owner key) := by
  unfold ownerDisagreement? Lists
  cases known : blueprints.find? owner with
  | none => simp [eq_comm]
  | some blueprint =>
      by_cases listed : key ∈ blueprint.sharedKeys <;> simp [listed, eq_comm]

theorem mem_blueprintToDatum (disagreement : Disagreement) :
    disagreement ∈ blueprintToDatum blueprints shared ↔
      ∃ route key, Lists blueprints route key ∧
        keyDisagreement? shared route key = some disagreement := by
  simp only [blueprintToDatum, List.mem_flatMap, Prod.exists, List.mem_filterMap,
    mem_sortedDistinct, ← SortedMap.find_eq_some_iff]
  constructor
  · rintro ⟨route, blueprint, found, key, listed, differs⟩
    exact ⟨route, key, ⟨blueprint, found, listed⟩, differs⟩
  · rintro ⟨route, key, ⟨blueprint, found, listed⟩, differs⟩
    exact ⟨route, blueprint, found, key, listed, differs⟩

theorem mem_datumToBlueprint (disagreement : Disagreement) :
    disagreement ∈ datumToBlueprint blueprints shared ↔
      (∃ key datum, shared.find? key = some datum ∧ datum.ownerRoutes = [] ∧
        disagreement = .ownerless key) ∨
      ∃ route key, Owns shared route key ∧
        ownerDisagreement? blueprints key route = some disagreement := by
  simp only [datumToBlueprint, List.mem_flatMap, Prod.exists, ← SortedMap.find_eq_some_iff]
  constructor
  · rintro ⟨key, datum, found, member⟩
    split at member
    · rename_i empty
      exact .inl ⟨key, datum, found, List.isEmpty_iff.mp empty, by simpa using member⟩
    · obtain ⟨owner, listed, differs⟩ := List.mem_filterMap.mp member
      exact .inr ⟨owner, key, ⟨datum, found, (mem_sortedDistinct _ _).mp listed⟩, differs⟩
  · rintro (⟨key, datum, found, empty, rfl⟩ | ⟨owner, key, ⟨datum, found, listed⟩, differs⟩)
    · exact ⟨key, datum, found, by simp [empty]⟩
    · have occupied : datum.ownerRoutes.isEmpty = false :=
        List.isEmpty_eq_false_iff.mpr (List.ne_nil_of_mem listed)
      refine ⟨key, datum, found, ?_⟩
      rw [occupied, if_neg Bool.false_ne_true]
      exact List.mem_filterMap.mpr ⟨owner, (mem_sortedDistinct _ _).mpr listed, differs⟩

theorem mem_disagreements (disagreement : Disagreement) :
    disagreement ∈ blueprintToDatum blueprints shared ++ datumToBlueprint blueprints shared ↔
      disagreement.Holds blueprints shared := by
  rw [List.mem_append, mem_blueprintToDatum, mem_datumToBlueprint]
  simp only [keyDisagreement_eq_some, ownerDisagreement_eq_some]
  cases disagreement <;> simp [Disagreement.Holds]

theorem keyDisagreement_route (route key : String) (disagreement : Disagreement)
    (differs : keyDisagreement? shared route key = some disagreement) :
    disagreement.route? = some route ∧ disagreement.key = key := by
  rcases (keyDisagreement_eq_some shared route key disagreement).mp differs with
    ⟨rfl, -⟩ | ⟨rfl, -⟩ <;> exact ⟨rfl, rfl⟩

theorem ownerDisagreement_route (key owner : String) (disagreement : Disagreement)
    (differs : ownerDisagreement? blueprints key owner = some disagreement) :
    disagreement.route? = some owner ∧ disagreement.key = key := by
  rcases (ownerDisagreement_eq_some blueprints key owner disagreement).mp differs with
    ⟨rfl, -⟩ | ⟨rfl, -⟩ <;> exact ⟨rfl, rfl⟩

/-- A pass that tells every entry of a table by its key finds nothing twice when it does not find
anything twice for one entry. -/
theorem flatMap_entries_nodup {Value Name : Type} (table : SortedMap String Value)
    (name : Disagreement → Name) (called : String → Name)
    (apart : Function.Injective called) (found : String × Value → List Disagreement)
    (named : ∀ entry ∈ table.entries, ∀ disagreement ∈ found entry,
      name disagreement = called entry.1)
    (once : ∀ entry ∈ table.entries, (found entry).Nodup) :
    (table.entries.flatMap found).Nodup := by
  refine List.nodup_flatMap.mpr ⟨once, ?_⟩
  have distinct : table.entries.Pairwise fun earlier later => earlier.1 ≠ later.1 :=
    List.pairwise_map.mp table.keys_nodup
  refine distinct.imp_of_mem fun {earlier later} before after differ => ?_
  intro disagreement first second
  refine differ (apart ?_)
  rw [← named earlier before disagreement first, named later after disagreement second]

theorem blueprintToDatum_nodup : (blueprintToDatum blueprints shared).Nodup := by
  refine flatMap_entries_nodup blueprints Disagreement.route? some (fun _ _ => Option.some.inj) _
    ?_ ?_
  · rintro ⟨route, blueprint⟩ - disagreement member
    obtain ⟨key, -, differs⟩ := List.mem_filterMap.mp member
    exact (keyDisagreement_route shared route key disagreement differs).1
  · rintro ⟨route, blueprint⟩ -
    refine (sortedDistinct_nodup blueprint.sharedKeys).filterMap ?_
    intro key other disagreement first second
    rw [← (keyDisagreement_route shared route key disagreement first).2,
      (keyDisagreement_route shared route other disagreement second).2]

theorem datumToBlueprint_nodup : (datumToBlueprint blueprints shared).Nodup := by
  refine flatMap_entries_nodup shared Disagreement.key id Function.injective_id _ ?_ ?_
  · rintro ⟨key, datum⟩ - disagreement member
    dsimp only at member
    split at member
    · rw [List.mem_singleton.mp member]
      rfl
    · obtain ⟨owner, -, differs⟩ := List.mem_filterMap.mp member
      exact (ownerDisagreement_route blueprints key owner disagreement differs).2
  · rintro ⟨key, datum⟩ -
    dsimp only
    split
    · exact List.nodup_singleton _
    · refine (sortedDistinct_nodup datum.ownerRoutes).filterMap ?_
      intro owner other disagreement first second
      have same := (ownerDisagreement_route blueprints key owner disagreement first).1
      rw [(ownerDisagreement_route blueprints key other disagreement second).1] at same
      exact (Option.some.inj same).symm

theorem disagreements_nodup :
    (blueprintToDatum blueprints shared ++ datumToBlueprint blueprints shared).Nodup := by
  refine List.nodup_append'.mpr
    ⟨blueprintToDatum_nodup blueprints shared, datumToBlueprint_nodup blueprints shared, ?_⟩
  intro disagreement first second
  -- The passes find different kinds of disagreement, so none is found by both.
  obtain ⟨route, key, -, differs⟩ := (mem_blueprintToDatum _ _ _).mp first
  rcases (mem_datumToBlueprint _ _ _).mp second with
    ⟨other, -, -, -, rfl⟩ | ⟨owner, other, -, misses⟩
  · simp [keyDisagreement_eq_some] at differs
  · rw [keyDisagreement_eq_some] at differs
    rw [ownerDisagreement_eq_some] at misses
    rcases differs with ⟨rfl, -⟩ | ⟨rfl, -⟩ <;> simp at misses

theorem blueprintHygiene_warns (violation : Violation)
    (member : violation ∈ blueprintHygiene blueprints) : violation.isError = false := by
  obtain ⟨⟨route, blueprint⟩, -, odd⟩ := List.mem_flatMap.mp member
  unfold blueprintWarnings at odd
  rcases List.mem_append.mp odd with front | repeats
  · rcases List.mem_append.mp front with bare | repeats
    · split at bare
      · rw [List.mem_singleton.mp bare]
        rfl
      · contradiction
    · obtain ⟨name, -, rfl⟩ := List.mem_map.mp repeats
      rfl
  · obtain ⟨key, -, rfl⟩ := List.mem_map.mp repeats
    rfl

theorem validate_errors :
    (validate blueprints shared).filter Violation.isError =
      (blueprintToDatum blueprints shared ++ datumToBlueprint blueprints shared).map
        Disagreement.violation := by
  rw [validate, List.filter_append, List.filter_eq_self.mpr, List.filter_eq_nil_iff.mpr,
    List.append_nil]
  · intro violation member
    simp [blueprintHygiene_warns blueprints violation member]
  · intro violation member
    obtain ⟨disagreement, -, rfl⟩ := List.mem_map.mp member
    exact disagreement.violation_error

theorem mem_errors (violation : Violation) :
    violation ∈ validate blueprints shared ∧ violation.isError = true ↔
      ∃ disagreement : Disagreement,
        disagreement.Holds blueprints shared ∧ disagreement.violation = violation := by
  rw [← List.mem_filter, validate_errors, List.mem_map]
  simp only [mem_disagreements]

theorem count_violation (disagreement : Disagreement) :
    (disagreement.Holds blueprints shared →
      (validate blueprints shared).count disagreement.violation = 1) ∧
    (¬ disagreement.Holds blueprints shared →
      (validate blueprints shared).count disagreement.violation = 0) := by
  have counted : (validate blueprints shared).count disagreement.violation =
      (blueprintToDatum blueprints shared ++ datumToBlueprint blueprints shared).count
        disagreement := by
    rw [← List.count_filter disagreement.violation_error, validate_errors]
    exact List.count_map_of_injective _ _ Disagreement.violation_injective disagreement
  rw [counted, ← mem_disagreements]
  exact ⟨List.count_eq_one_of_mem (disagreements_nodup blueprints shared),
    List.count_eq_zero.mpr⟩

/-- Tables agree when the two sides name the same pairs, every owner has a blueprint and every key
has an owner. -/
theorem forall_not_holds :
    (∀ disagreement : Disagreement, ¬ disagreement.Holds blueprints shared) ↔
      (∀ route key, (Lists blueprints route key ↔ Owns shared route key) ∧
        (Owns shared route key → (blueprints.find? route).isSome = true)) ∧
      ∀ key datum, shared.find? key = some datum → datum.ownerRoutes ≠ [] := by
  constructor
  · intro agree
    have listed : ∀ route key, Lists blueprints route key → Owns shared route key := by
      intro route key lists
      by_contra missing
      cases known : shared.find? key with
      | none => exact agree (.unknownKey route key) ⟨lists, known⟩
      | some datum =>
          exact agree (.missingOwner route key) ⟨lists, by rw [known]; rfl, missing⟩
    have blueprint : ∀ route key, Owns shared route key →
        (blueprints.find? route).isSome = true := by
      intro route key owns
      cases known : blueprints.find? route with
      | none => exact absurd ⟨owns, known⟩ (agree (.unknownOwner route key))
      | some blueprint => rfl
    refine ⟨fun route key => ⟨⟨listed route key, fun owns => ?_⟩, blueprint route key⟩, ?_⟩
    · by_contra missing
      exact agree (.missingKey route key) ⟨owns, blueprint route key owns, missing⟩
    · intro key datum found bare
      exact agree (.ownerless key) ⟨datum, found, bare⟩
  · rintro ⟨pairs, owned⟩ disagreement holds
    cases disagreement with
    | unknownKey route key =>
        obtain ⟨datum, found, -⟩ := (pairs route key).1.mp holds.1
        simp [holds.2] at found
    | missingOwner route key => exact holds.2.2 ((pairs route key).1.mp holds.1)
    | ownerless key =>
        obtain ⟨datum, found, bare⟩ := holds
        exact owned key datum found bare
    | unknownOwner route key =>
        have known := (pairs route key).2 holds.1
        simp [holds.2] at known
    | missingKey route key => exact holds.2.2 ((pairs route key).1.mpr holds.1)

end Reports

section Rewriting

def listed (blueprints : BlueprintTable) (route : String) : List String :=
  ((blueprints.find? route).map RouteBlueprint.sharedKeys).getD []

def owners (shared : SharedDataTable) (key : String) : List String :=
  ((shared.find? key).map SharedDatum.ownerRoutes).getD []

theorem mem_listed (blueprints : BlueprintTable) (route key : String) :
    key ∈ listed blueprints route ↔ Lists blueprints route key := by
  unfold listed Lists
  cases blueprints.find? route <;> simp

theorem mem_owners (shared : SharedDataTable) (route key : String) :
    route ∈ owners shared key ↔ Owns shared route key := by
  unfold owners Owns
  cases shared.find? key <;> simp

/-- Two tables have the same routes, and their blueprints list the same keys in whatever order and
however often. Sections are free. -/
def SameKeys (left right : BlueprintTable) : Prop :=
  (∀ route, left.contains route = true ↔ right.contains route = true) ∧
    ∀ route key, Lists left route key ↔ Lists right route key

/-- Two tables have the same keys with the same owners, in whatever order and however often. -/
def SameOwners (left right : SharedDataTable) : Prop :=
  (∀ key, left.contains key = true ↔ right.contains key = true) ∧
    ∀ route key, Owns left route key ↔ Owns right route key

theorem find_eq_none_congr {Value : Type} {left right : SortedMap String Value} {key : String}
    (same : left.contains key = true ↔ right.contains key = true) :
    left.find? key = none ↔ right.find? key = none := by
  unfold SortedMap.contains at same
  rw [← Option.not_isSome_iff_eq_none, ← Option.not_isSome_iff_eq_none, same]

theorem keyDisagreement_congr {left right : SharedDataTable} (same : SameOwners left right)
    (route : String) : keyDisagreement? left route = keyDisagreement? right route := by
  funext key
  refine Option.ext fun disagreement => ?_
  rw [keyDisagreement_eq_some, keyDisagreement_eq_some, find_eq_none_congr (same.1 key),
    same.2 route key]
  exact or_congr_right (and_congr_right fun _ => and_congr_left fun _ => same.1 key)

theorem ownerDisagreement_congr {left right : BlueprintTable} (same : SameKeys left right)
    (key : String) : ownerDisagreement? left key = ownerDisagreement? right key := by
  funext owner
  refine Option.ext fun disagreement => ?_
  rw [ownerDisagreement_eq_some, ownerDisagreement_eq_some, find_eq_none_congr (same.1 owner),
    same.2 owner key]
  exact or_congr_right (and_congr_right fun _ => and_congr_left fun _ => same.1 owner)

theorem blueprintToDatum_keys (blueprints : BlueprintTable) (shared : SharedDataTable) :
    blueprintToDatum blueprints shared = blueprints.keys.flatMap fun route =>
      (sortedDistinct (listed blueprints route)).filterMap (keyDisagreement? shared route) := by
  rw [SortedMap.keys, List.flatMap_map]
  refine List.flatMap_congr fun entry member => ?_
  rw [listed, (blueprints.find_eq_some_iff entry.1 entry.2).mpr member]
  rfl

theorem datumToBlueprint_keys (blueprints : BlueprintTable) (shared : SharedDataTable) :
    datumToBlueprint blueprints shared = shared.keys.flatMap fun key =>
      if (owners shared key).isEmpty then [.ownerless key]
      else (sortedDistinct (owners shared key)).filterMap (ownerDisagreement? blueprints key) := by
  rw [SortedMap.keys, List.flatMap_map]
  refine List.flatMap_congr fun entry member => ?_
  rw [owners, (shared.find_eq_some_iff entry.1 entry.2).mpr member]
  rfl

/-- Repeating or reordering what the tables list leaves the errors as they are, in their order. -/
theorem validate_errors_congr {blueprints others : BlueprintTable}
    {shared otherShared : SharedDataTable} (keys : SameKeys blueprints others)
    (routes : SameOwners shared otherShared) :
    (validate blueprints shared).filter Violation.isError =
      (validate others otherShared).filter Violation.isError := by
  rw [validate_errors, validate_errors]
  congr 2
  · rw [blueprintToDatum_keys, blueprintToDatum_keys,
      SortedMap.keys_eq_of_contains blueprints others keys.1]
    refine List.flatMap_congr fun route _ => ?_
    rw [keyDisagreement_congr routes, sortedDistinct_congr (listed blueprints route)
      (listed others route) fun key => by rw [mem_listed, mem_listed, keys.2 route key]]
  · rw [datumToBlueprint_keys, datumToBlueprint_keys,
      SortedMap.keys_eq_of_contains shared otherShared routes.1]
    refine List.flatMap_congr fun key _ => ?_
    have members : ∀ route, route ∈ owners shared key ↔ route ∈ owners otherShared key := by
      intro route
      rw [mem_owners, mem_owners, routes.2 route key]
    have empty : (owners shared key).isEmpty = (owners otherShared key).isEmpty := by
      rw [Bool.eq_iff_iff, List.isEmpty_iff, List.isEmpty_iff, List.eq_nil_iff_forall_not_mem,
        List.eq_nil_iff_forall_not_mem]
      exact forall_congr' fun route => not_congr (members route)
    rw [ownerDisagreement_congr keys, sortedDistinct_congr _ _ members, empty]

end Rewriting

/-- The errors about two tables are exactly what they disagree about. There is none when the two
sides name the same pairs, the routes of all pairs have blueprints and every key has an owner. Each
disagreement is told once: a pair of a route with a blueprint and a known key by the side that names
it alone, an unknown key and an unknown owner by the reference. The lists of the tables count as
sets. -/
theorem validate_exact (blueprints : BlueprintTable) (shared : SharedDataTable) :
    ((∀ violation ∈ validate blueprints shared, violation.isError = false) ↔
      (∀ route key, (Lists blueprints route key ↔ Owns shared route key) ∧
        (Owns shared route key → (blueprints.find? route).isSome = true)) ∧
      ∀ key datum, shared.find? key = some datum → datum.ownerRoutes ≠ []) ∧
    (∀ violation, violation ∈ validate blueprints shared ∧ violation.isError = true ↔
      ∃ disagreement : Disagreement,
        disagreement.Holds blueprints shared ∧ disagreement.violation = violation) ∧
    (∀ disagreement : Disagreement, disagreement.Holds blueprints shared →
      (validate blueprints shared).count disagreement.violation = 1) ∧
    (∀ route key, (blueprints.find? route).isSome = true → (shared.find? key).isSome = true →
      (Lists blueprints route key ∧ ¬ Owns shared route key →
        (Disagreement.missingOwner route key).violation.subject = route ∧
        (validate blueprints shared).count (Disagreement.missingOwner route key).violation = 1 ∧
        (validate blueprints shared).count (Disagreement.missingKey route key).violation = 0) ∧
      (Owns shared route key ∧ ¬ Lists blueprints route key →
        (Disagreement.missingKey route key).violation.subject = key ∧
        (validate blueprints shared).count (Disagreement.missingKey route key).violation = 1 ∧
        (validate blueprints shared).count
          (Disagreement.missingOwner route key).violation = 0)) ∧
    ∀ (others : BlueprintTable) (otherShared : SharedDataTable),
      SameKeys blueprints others → SameOwners shared otherShared →
        (validate blueprints shared).filter Violation.isError =
          (validate others otherShared).filter Violation.isError := by
  refine ⟨?_, mem_errors blueprints shared,
    fun disagreement => (count_violation blueprints shared disagreement).1, ?_,
    fun others otherShared => validate_errors_congr⟩
  · rw [← forall_not_holds]
    constructor
    · intro silent disagreement holds
      obtain ⟨member, error⟩ := (mem_errors blueprints shared _).mpr ⟨disagreement, holds, rfl⟩
      rw [silent _ member] at error
      contradiction
    · intro agree violation member
      by_contra loud
      have error : violation.isError = true := by simpa using loud
      obtain ⟨disagreement, holds, -⟩ := (mem_errors blueprints shared _).mp ⟨member, error⟩
      exact agree disagreement holds
  · intro route key known found
    have owner := count_violation blueprints shared (.missingOwner route key)
    have listing := count_violation blueprints shared (.missingKey route key)
    constructor
    · rintro ⟨lists, missing⟩
      refine ⟨by rw [Disagreement.violation_missingOwner], owner.1 ⟨lists, found, missing⟩, ?_⟩
      exact listing.2 fun holds => missing holds.1
    · rintro ⟨owns, missing⟩
      refine ⟨by rw [Disagreement.violation_missingKey], listing.1 ⟨owns, known, missing⟩, ?_⟩
      exact owner.2 fun holds => missing holds.1

end UiContract.CrossReference
