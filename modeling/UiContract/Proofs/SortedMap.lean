import Mathlib.Data.List.Forall2
import Mathlib.Data.List.Nodup
import UiContract.SortedMap

/-!
What a map in the order of its keys finds after a value was put under a key, and which members a
sorted list of distinct members has. Two maps that know the same keys list them alike, since a strict
order leaves only one way to list a set.
-/
namespace UiContract

namespace SortedMap

variable {Key Value : Type} [Ord Key] [Std.TransOrd Key]

theorem find_insertEntry (key other : Key) (value : Value) (entries : List (Key × Value)) :
    ((insertEntry key value entries).find? fun entry => compare other entry.1 == .eq).map Prod.snd =
      if compare other key = .eq then some value
      else (entries.find? fun entry => compare other entry.1 == .eq).map Prod.snd := by
  induction entries with
  | nil =>
      by_cases hit : compare other key = .eq <;> simp [insertEntry, hit]
  | cons head rest ih =>
      unfold insertEntry
      split
      · by_cases hit : compare other key = .eq <;> simp [hit]
      · rename_i same
        -- The old spelling of the key stays, but no lookup can tell the two apart.
        have shared : compare other head.1 = compare other key :=
          (Std.TransCmp.congr_right same).symm
        by_cases hit : compare other key = .eq <;> simp [shared, hit]
      · rename_i after
        by_cases first : compare other head.1 = .eq
        · have apart : compare other key ≠ .eq := by
            intro hit
            have same := Std.TransCmp.eq_trans (Std.OrientedCmp.eq_symm hit) first
            rw [same] at after
            contradiction
          simp [first, apart]
        · simpa [first] using ih

theorem find_insert (map : SortedMap Key Value) (key other : Key) (value : Value) :
    (map.insert key value).find? other =
      if compare other key = .eq then some value else map.find? other :=
  find_insertEntry key other value map.entries

theorem find_congr (map : SortedMap Key Value) {key other : Key}
    (same : compare key other = .eq) : map.find? key = map.find? other := by
  unfold find?
  simp only [Std.TransCmp.congr_left same]

theorem contains_insert (map : SortedMap Key Value) (key other : Key) (value : Value) :
    (map.insert key value).contains other = true ↔
      compare other key = .eq ∨ map.contains other = true := by
  unfold contains
  rw [find_insert]
  by_cases hit : compare other key = .eq <;> simp [hit]

omit [Std.TransOrd Key] in
@[simp] theorem contains_empty (key : Key) :
    (∅ : SortedMap Key Value).contains key = false := rfl

omit [Std.TransOrd Key] in
theorem contains_iff (map : SortedMap Key Value) (key : Key) :
    map.contains key = true ↔ ∃ entry ∈ map.entries, compare key entry.1 = .eq := by
  simp [contains, find?]

omit [Std.TransOrd Key] in
theorem mem_of_find (map : SortedMap Key Value) (key : Key) (value : Value)
    (found : map.find? key = some value) :
    ∃ spelled, (spelled, value) ∈ map.entries ∧ compare key spelled = .eq := by
  obtain ⟨entry, held, rfl⟩ := Option.map_eq_some_iff.mp found
  exact ⟨entry.1, List.mem_of_find?_eq_some held, by simpa using List.find?_some held⟩

theorem contains_of_mem (map : SortedMap Key Value) (entry : Key × Value)
    (member : entry ∈ map.entries) : map.contains entry.1 = true :=
  (map.contains_iff entry.1).mpr ⟨entry, member, Std.ReflCmp.compare_self⟩

omit [Std.TransOrd Key] in
theorem apart_of_fresh (map : SortedMap Key Value) (key : Key)
    (fresh : map.contains key = false) : ∀ old ∈ map.entries, compare key old.1 ≠ .eq := by
  intro old member same
  have known := (map.contains_iff key).mpr ⟨old, member, same⟩
  rw [fresh] at known
  contradiction

theorem mem_insert_of_fresh (map : SortedMap Key Value) (key : Key) (value : Value)
    (fresh : map.contains key = false) (entry : Key × Value) :
    entry ∈ (map.insert key value).entries ↔ entry = (key, value) ∨ entry ∈ map.entries := by
  have apart := map.apart_of_fresh key fresh
  show entry ∈ insertEntry key value map.entries ↔ _
  generalize map.entries = entries at apart
  induction entries with
  | nil => simp [insertEntry]
  | cons head rest ih =>
      have tail := ih fun old member => apart old (List.mem_cons_of_mem head member)
      unfold insertEntry
      split
      · simp only [List.mem_cons]
      · rename_i same
        exact absurd same (apart head List.mem_cons_self)
      · simp only [List.mem_cons, tail]
        exact or_left_comm

theorem mem_keys_insert_of_fresh (map : SortedMap Key Value) (key : Key) (value : Value)
    (fresh : map.contains key = false) (other : Key) :
    other ∈ (map.insert key value).keys ↔ other = key ∨ other ∈ map.keys := by
  simp only [keys, List.mem_map, mem_insert_of_fresh map key value fresh, exists_eq_or_imp]
  exact or_congr_left eq_comm

theorem size_insert_of_fresh (map : SortedMap Key Value) (key : Key) (value : Value)
    (fresh : map.contains key = false) : (map.insert key value).size = map.size + 1 := by
  have apart := map.apart_of_fresh key fresh
  show (insertEntry key value map.entries).length = map.entries.length + 1
  generalize map.entries = entries at apart
  induction entries with
  | nil => rfl
  | cons head rest ih =>
      unfold insertEntry
      split
      · rfl
      · rename_i same
        exact absurd same (apart head List.mem_cons_self)
      · rw [List.length_cons, ih fun old member => apart old (List.mem_cons_of_mem head member)]
        rfl

omit [Std.TransOrd Key] in
theorem keys_ascending (map : SortedMap Key Value) :
    map.keys.Pairwise fun earlier later => compare earlier later = .lt :=
  List.pairwise_map.mpr map.ascending

theorem keys_nodup (map : SortedMap Key Value) : map.keys.Nodup := by
  refine map.keys_ascending.imp fun {earlier later} before same => ?_
  have equal : compare earlier later = .eq := by rw [same]; exact Std.ReflCmp.compare_self
  rw [equal] at before
  contradiction

/-- A key is told from the first of ascending keys by being one of the others. -/
theorem apart_of_later {first later key : Key} {rest : List Key}
    (ascending : (first :: rest).Pairwise fun earlier later => compare earlier later = .lt)
    (member : later ∈ rest) (same : compare key later = .eq) : compare first key = .lt := by
  rw [Std.TransCmp.congr_right same]
  exact (List.pairwise_cons.mp ascending).1 later member

/-- Ascending lists that have the same keys have them in the same order, however they are written. -/
theorem forall₂_of_ascending (left right : List Key)
    (ascending : left.Pairwise fun earlier later => compare earlier later = .lt)
    (ascending' : right.Pairwise fun earlier later => compare earlier later = .lt)
    (same : ∀ key, (∃ other ∈ left, compare key other = .eq) ↔
      ∃ other ∈ right, compare key other = .eq) :
    List.Forall₂ (fun first second => compare first second = .eq) left right := by
  induction left generalizing right with
  | nil =>
      cases right with
      | nil => exact .nil
      | cons first rest =>
          obtain ⟨other, member, -⟩ :=
            (same first).mpr ⟨first, List.mem_cons_self, Std.ReflCmp.compare_self⟩
          contradiction
  | cons first rest ih =>
      obtain ⟨other, member, hit⟩ :=
        (same first).mp ⟨first, List.mem_cons_self, Std.ReflCmp.compare_self⟩
      cases right with
      | nil => contradiction
      | cons first' rest' =>
          obtain ⟨other', member', hit'⟩ :=
            (same first').mpr ⟨first', List.mem_cons_self, Std.ReflCmp.compare_self⟩
          have heads : compare first first' = .eq := by
            rcases List.mem_cons.mp member with rfl | later
            · exact hit
            · rcases List.mem_cons.mp member' with rfl | later'
              · exact Std.OrientedCmp.eq_symm hit'
              · have before := apart_of_later ascending' later hit
                rw [Std.OrientedCmp.gt_of_lt (apart_of_later ascending later' hit')] at before
                contradiction
          refine .cons heads (ih rest' (List.pairwise_cons.mp ascending).2
            (List.pairwise_cons.mp ascending').2 fun key => ⟨?_, ?_⟩)
          · rintro ⟨known, inRest, equal⟩
            obtain ⟨found, listed, equal'⟩ :=
              (same key).mp ⟨known, List.mem_cons_of_mem first inRest, equal⟩
            rcases List.mem_cons.mp listed with rfl | later
            · have before := apart_of_later ascending inRest equal
              rw [Std.TransCmp.eq_trans heads (Std.OrientedCmp.eq_symm equal')] at before
              contradiction
            · exact ⟨found, later, equal'⟩
          · rintro ⟨known, inRest, equal⟩
            obtain ⟨found, listed, equal'⟩ :=
              (same key).mpr ⟨known, List.mem_cons_of_mem first' inRest, equal⟩
            rcases List.mem_cons.mp listed with rfl | later
            · have before := apart_of_later ascending' inRest equal
              rw [Std.TransCmp.eq_trans (Std.OrientedCmp.eq_symm heads)
                (Std.OrientedCmp.eq_symm equal')] at before
              contradiction
            · exact ⟨found, later, equal'⟩

theorem keys_forall₂ {Other : Type} (left : SortedMap Key Value) (right : SortedMap Key Other)
    (same : ∀ key, left.contains key = true ↔ right.contains key = true) :
    List.Forall₂ (fun first second => compare first second = .eq) left.keys right.keys := by
  refine forall₂_of_ascending _ _ left.keys_ascending right.keys_ascending fun key => ?_
  simpa [contains_iff, keys] using same key

theorem contains_ofList_iff (entries : List (Key × Value)) (key : Key) :
    (ofList entries).contains key = true ↔ ∃ entry ∈ entries, compare key entry.1 = .eq := by
  suffices general : ∀ map : SortedMap Key Value,
      (entries.foldl (fun map entry => map.insert entry.1 entry.2) map).contains key = true ↔
        (∃ entry ∈ entries, compare key entry.1 = .eq) ∨ map.contains key = true by
    exact (general {}).trans (by rw [contains_empty]; simp)
  induction entries with
  | nil => simp
  | cons head rest ih =>
      intro map
      rw [List.foldl_cons, ih, contains_insert]
      simp only [List.mem_cons, exists_eq_or_imp, or_assoc]
      exact or_left_comm

/-- The keys of the map of a list are keys of the list, as they are spelled there. -/
theorem mem_of_mem_ofList (entries : List (Key × Value)) (key : Key)
    (member : key ∈ (ofList entries).keys) : key ∈ entries.map Prod.fst := by
  suffices general : ∀ map : SortedMap Key Value,
      key ∈ (entries.foldl (fun map entry => map.insert entry.1 entry.2) map).keys →
        key ∈ entries.map Prod.fst ∨ key ∈ map.keys from
    (general {} member).resolve_right List.not_mem_nil
  clear member
  induction entries with
  | nil => exact fun map member => .inr member
  | cons head rest ih =>
      intro map member
      rw [List.map_cons, List.mem_cons]
      rcases ih (map.insert head.1 head.2) member with later | held
      · exact .inl (.inr later)
      · obtain ⟨entry, inside, rfl⟩ := List.mem_map.mp held
        rcases mem_insertEntry_or head.1 head.2 map.entries entry inside with new | ⟨old, kept, same⟩
        · exact .inl (.inl new)
        · exact .inr (List.mem_map.mpr ⟨old, kept, same⟩)

section LawfulKeys

variable [Std.LawfulEqOrd Key]

theorem find_eq_some_iff (map : SortedMap Key Value) (key : Key) (value : Value) :
    map.find? key = some value ↔ (key, value) ∈ map.entries := by
  obtain ⟨entries, ascending⟩ := map
  unfold find?
  dsimp only
  induction entries with
  | nil => simp
  | cons head rest ih =>
      obtain ⟨below, tail⟩ := List.pairwise_cons.mp ascending
      by_cases hit : compare key head.1 = .eq
      · have same : key = head.1 := Std.LawfulEqOrd.eq_of_compare hit
        have absent : (key, value) ∉ rest := by
          intro member
          have before := below (key, value) member
          rw [Std.OrientedCmp.eq_symm hit] at before
          contradiction
        simp only [List.find?_cons, hit, beq_self_eq_true, Option.map_some, Option.some.injEq,
          List.mem_cons, absent, or_false]
        constructor
        · rintro rfl
          rw [same]
        · intro equal
          exact congrArg Prod.snd equal.symm
      · have apart : (key, value) ≠ head := by
          rintro rfl
          exact hit Std.ReflCmp.compare_self
        simp [hit, apart, ih tail]

omit [Std.TransOrd Key] in
theorem mem_keys (map : SortedMap Key Value) (key : Key) :
    key ∈ map.keys ↔ map.contains key = true := by
  rw [contains_iff]
  simp only [keys, List.mem_map, Std.LawfulEqOrd.compare_eq_iff_eq]
  exact exists_congr fun entry => and_congr_right fun _ => eq_comm

theorem keys_eq_of_contains {Other : Type} (left : SortedMap Key Value)
    (right : SortedMap Key Other)
    (same : ∀ key, left.contains key = true ↔ right.contains key = true) :
    left.keys = right.keys := by
  rw [← List.forall₂_eq_eq_eq]
  exact (left.keys_forall₂ right same).imp fun _ _ => Std.LawfulEqOrd.eq_of_compare

theorem contains_ofList (entries : List (Key × Value)) (key : Key) :
    (ofList entries).contains key = true ↔ key ∈ entries.map Prod.fst := by
  rw [contains_ofList_iff]
  simp only [Std.LawfulEqOrd.compare_eq_iff_eq, List.mem_map]
  exact exists_congr fun entry => and_congr_right fun _ => eq_comm

theorem find_foldl_of_absent (entries : List (Key × Value)) (key : Key)
    (absent : key ∉ entries.map Prod.fst) (map : SortedMap Key Value) :
    (entries.foldl (fun map entry => map.insert entry.1 entry.2) map).find? key = map.find? key := by
  induction entries generalizing map with
  | nil => rfl
  | cons head rest ih =>
      rw [List.map_cons, List.mem_cons, not_or] at absent
      rw [List.foldl_cons, ih absent.2, find_insert,
        if_neg fun same => absent.1 (Std.LawfulEqOrd.eq_of_compare same)]

theorem find_ofList (entries : List (Key × Value)) (distinct : (entries.map Prod.fst).Nodup)
    (entry : Key × Value) (member : entry ∈ entries) :
    (ofList entries).find? entry.1 = some entry.2 := by
  suffices general : ∀ map : SortedMap Key Value,
      (entries.foldl (fun map entry => map.insert entry.1 entry.2) map).find? entry.1 =
        some entry.2 from general {}
  induction entries with
  | nil => contradiction
  | cons head rest ih =>
      intro map
      obtain ⟨absent, tail⟩ := List.nodup_cons.mp distinct
      rw [List.foldl_cons]
      obtain rfl | later := List.mem_cons.mp member
      · rw [find_foldl_of_absent rest entry.1 absent, find_insert,
          if_pos Std.ReflCmp.compare_self]
      · exact ih tail later _

theorem eq_of_find (left right : SortedMap Key Value)
    (same : ∀ key, left.find? key = right.find? key) : left = right := by
  have members : ∀ entry, entry ∈ left.entries ↔ entry ∈ right.entries := by
    intro entry
    rw [← left.find_eq_some_iff, ← right.find_eq_some_iff, same]
  have nodup : ∀ map : SortedMap Key Value, map.entries.Nodup := fun map =>
    List.Nodup.of_map Prod.fst map.keys_nodup
  have entries : left.entries = right.entries := by
    refine List.Perm.eq_of_pairwise ?_ left.ascending right.ascending
      ((List.perm_ext_iff_of_nodup (nodup left) (nodup right)).mpr members)
    intro first second _ _ before after
    rw [Std.OrientedCmp.gt_of_lt after] at before
    contradiction
  cases left
  cases right
  cases entries
  rfl

end LawfulKeys

end SortedMap

variable {Key : Type} [Ord Key] [Std.TransOrd Key]

theorem sortedDistinct_nodup (members : List Key) : (sortedDistinct members).Nodup :=
  SortedMap.keys_nodup _

theorem sortedDistinct_ascending (members : List Key) :
    (sortedDistinct members).Pairwise fun earlier later => compare earlier later = .lt :=
  SortedMap.keys_ascending _

theorem mem_of_mem_sortedDistinct (members : List Key) (key : Key)
    (member : key ∈ sortedDistinct members) : key ∈ members := by
  simpa using SortedMap.mem_of_mem_ofList _ key member

theorem exists_mem_sortedDistinct (members : List Key) (key : Key) (member : key ∈ members) :
    ∃ kept ∈ sortedDistinct members, compare key kept = .eq := by
  have known : (SortedMap.ofList (members.map fun key => (key, ()))).contains key = true :=
    (SortedMap.contains_ofList_iff _ key).mpr
      ⟨(key, ()), List.mem_map.mpr ⟨key, member, rfl⟩, Std.ReflCmp.compare_self⟩
  obtain ⟨entry, kept, same⟩ := (SortedMap.contains_iff _ key).mp known
  exact ⟨entry.1, List.mem_map.mpr ⟨entry, kept, rfl⟩, same⟩

variable [Std.LawfulEqOrd Key]

theorem mem_sortedDistinct (members : List Key) (key : Key) :
    key ∈ sortedDistinct members ↔ key ∈ members := by
  rw [sortedDistinct, SortedMap.mem_keys, SortedMap.contains_ofList]
  simp

theorem sortedDistinct_congr (left right : List Key)
    (same : ∀ key, key ∈ left ↔ key ∈ right) : sortedDistinct left = sortedDistinct right := by
  refine SortedMap.keys_eq_of_contains _ _ fun key => ?_
  rw [SortedMap.contains_ofList, SortedMap.contains_ofList]
  simpa using same key

end UiContract
