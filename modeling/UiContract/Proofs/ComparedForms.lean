import UiContract.PathFilter
import UiContract.Proofs.Trimming

/-!
The form in which paths and globs are compared, as `normalize_filter_path` makes it. The trims are made once,
in a fixed order, and one may lay bare what an earlier one would have taken away. A text is left as it is
just when it is in the compared form; what was trimmed once has no slash at its ends any more, but it can
have blanks there or a `./` in front, and it has neither where no blank stands next to a slash and no `.`
between two of them.
-/
namespace UiContract

namespace Text

variable (test : Char → Bool) (characters : List Char)

theorem dropEnds_inside : dropEnds test characters <:+: characters := by
  obtain ⟨front, back, whole, -⟩ := dropEnds_parts test characters
  exact ⟨front, back, whole.symm⟩

theorem dropEnds_eq_self_iff : dropEnds test characters = characters ↔ Bare test characters :=
  ⟨fun same => same ▸ dropEnds_bare test characters, dropEnds_of_bare test characters⟩

end Text

namespace Path

theorem dropCurrent_parts (characters : List Char) : ∃ front,
    characters = front ++ dropCurrent characters ∧ (front = [] ∨ front.getLast? = some '/') := by
  induction characters using dropCurrent.induct with
  | case1 rest ih =>
      obtain ⟨front, whole, ends⟩ := ih
      refine ⟨'.' :: '/' :: front, ?_, .inr ?_⟩
      · rw [dropCurrent, List.cons_append, List.cons_append, ← whole]
      · rcases ends with rfl | last
        · rfl
        · rw [List.getLast?_cons_cons, List.getLast?_cons, last]
          rfl
  | case2 characters apart =>
      refine ⟨[], ?_, .inl rfl⟩
      rw [dropCurrent]
      · rfl
      · exact apart

theorem dropCurrent_suffix (characters : List Char) : dropCurrent characters <:+ characters := by
  obtain ⟨front, whole, -⟩ := dropCurrent_parts characters
  exact ⟨front, whole.symm⟩

theorem dropCurrent_begins (characters : List Char) : ¬ ['.', '/'] <+: dropCurrent characters := by
  induction characters using dropCurrent.induct with
  | case1 rest ih => rwa [dropCurrent]
  | case2 characters apart =>
      rw [dropCurrent]
      · rintro ⟨rest, whole⟩
        exact apart rest whole.symm
      · exact apart

theorem dropCurrent_eq_self_iff (characters : List Char) :
    dropCurrent characters = characters ↔ ¬ ['.', '/'] <+: characters := by
  constructor
  · intro same
    rw [← same]
    exact dropCurrent_begins characters
  · intro apart
    rw [dropCurrent]
    rintro rest rfl
    exact apart ⟨rest, rfl⟩

end Path

namespace PathFilter

def slashed (raw : String) : List Char :=
  (Text.dropEnds Text.isBlank raw.toList).map fun character =>
    if character == '\\' then '/' else character

def core (raw : String) : List Char :=
  Text.dropEnds (· == '/') (Path.dropCurrent (slashed raw))

theorem toList_normalize (raw : String) :
    (normalize raw).toList = if core raw = ['.'] then [] else core raw := by
  show (if core raw == ['.'] then "" else String.ofList (core raw)).toList = _
  simp only [beq_iff_eq]
  split
  · rfl
  · exact String.toList_ofList

structure Compared (text : List Char) : Prop where
  trimmed : Text.Bare Text.isBlank text
  begins : ¬ ['.', '/'] <+: text
  unslashed : Text.Bare (· == '/') text
  forward : '\\' ∉ text
  named : text ≠ ['.']

section Slashes

variable (raw : String)

theorem forward_slashed : '\\' ∉ slashed raw := by
  intro member
  obtain ⟨character, -, same⟩ := List.mem_map.mp member
  split at same
  · contradiction
  · rename_i apart
    exact apart (beq_iff_eq.mpr same)

theorem length_slashed : (slashed raw).length = (Text.dropEnds Text.isBlank raw.toList).length :=
  List.length_map _

theorem slashed_eq (forward : '\\' ∉ raw.toList) :
    slashed raw = Text.dropEnds Text.isBlank raw.toList := by
  refine (List.map_congr_left fun character member => ?_).trans (List.map_id _)
  refine if_neg fun same => forward ?_
  rw [← beq_iff_eq.mp same]
  exact (Text.dropEnds_inside _ _).subset member

theorem bare_slashed : Text.Bare Text.isBlank (slashed raw) := by
  have solid : ∀ character, Text.isBlank character = false →
      Text.isBlank (if character == '\\' then '/' else character) = false := by
    intro character apart
    split
    · decide
    · exact apart
  have bare := Text.dropEnds_bare Text.isBlank raw.toList
  constructor
  · intro first found
    rw [slashed, List.head?_map] at found
    obtain ⟨character, front, rfl⟩ := Option.map_eq_some_iff.mp found
    exact solid character (bare.1 character front)
  · intro last found
    rw [slashed, List.getLast?_map] at found
    obtain ⟨character, back, rfl⟩ := Option.map_eq_some_iff.mp found
    exact solid character (bare.2 character back)

theorem core_inside : core raw <:+: slashed raw :=
  (Text.dropEnds_inside _ _).trans (Path.dropCurrent_suffix _).isInfix

theorem core_parts : ∃ front back, slashed raw = front ++ core raw ++ back ∧
    (front = [] ∧ ¬ ['.', '/'] <+: core raw ∨ front.getLast? = some '/') ∧
    (back = [] ∨ back.head? = some '/') := by
  obtain ⟨current, whole, ends⟩ := Path.dropCurrent_parts (slashed raw)
  obtain ⟨front, back, cut, slashes⟩ := Text.dropEnds_parts (· == '/') (Path.dropCurrent (slashed raw))
  have slash : ∀ character ∈ front ++ back, character = '/' :=
    fun character member => beq_iff_eq.mp (slashes character member)
  refine ⟨current ++ front, back, ?_, ?_, ?_⟩
  · conv_lhs => rw [whole, cut]
    simp only [core, List.append_assoc]
  · rcases List.eq_nil_or_concat front with rfl | ⟨others, last, rfl⟩
    · rw [List.append_nil]
      refine ends.imp_left fun none => ⟨none, fun dotted => ?_⟩
      -- The `./` would have been taken off in front already.
      refine Path.dropCurrent_begins (slashed raw) ?_
      rw [cut, List.nil_append]
      exact dotted.trans (List.prefix_append _ _)
    · right
      rw [List.concat_eq_append] at slash ⊢
      rw [← List.append_assoc, List.getLast?_concat, slash last (by simp)]
  · cases back with
    | nil => exact .inl rfl
    | cons first others =>
        refine .inr (congrArg some ?_)
        exact slash first (List.mem_append_right _ List.mem_cons_self)

end Slashes

/-- Whatever is written, no compared form has a slash at its ends or a backslash, or is a `.` alone. -/
theorem normalize_shape (raw : String) : Text.Bare (· == '/') (normalize raw).toList ∧
    '\\' ∉ (normalize raw).toList ∧ (normalize raw).toList ≠ ['.'] := by
  rw [toList_normalize]
  split
  · exact ⟨⟨nofun, nofun⟩, nofun, nofun⟩
  · rename_i named
    exact ⟨Text.dropEnds_bare _ _, fun member => forward_slashed raw ((core_inside raw).subset member), named⟩

theorem normalize_inside {text : String} (forward : '\\' ∉ text.toList) :
    (normalize text).toList <:+: text.toList := by
  rw [toList_normalize]
  split
  · exact List.nil_infix
  · refine (core_inside text).trans ?_
    rw [slashed_eq text forward]
    exact Text.dropEnds_inside _ _

theorem normalize_eq_self_of_compared {text : String} (compared : Compared text.toList) :
    normalize text = text := by
  have trimmed := Text.dropEnds_of_bare _ _ compared.trimmed
  have same : core text = text.toList := by
    rw [core, slashed_eq text compared.forward, trimmed,
      (Path.dropCurrent_eq_self_iff _).mpr compared.begins, Text.dropEnds_of_bare _ _ compared.unslashed]
  refine String.toList_inj.mp ?_
  rw [toList_normalize, same, if_neg compared.named]

theorem normalize_eq_self_iff (text : String) : normalize text = text ↔ Compared text.toList := by
  refine ⟨fun same => ?_, normalize_eq_self_of_compared⟩
  obtain ⟨unslashed, forward, named⟩ := normalize_shape text
  rw [same] at unslashed forward named
  have whole : core text = text.toList := by
    have listed := toList_normalize text
    rw [same] at listed
    split at listed
    · rename_i dot
      rw [String.toList_eq_nil_iff.mp listed] at dot
      contradiction
    · exact listed.symm
  -- No trim can take anything away, since nothing is put back.
  have inner := (Path.dropCurrent_suffix (slashed text)).isInfix
  have outer := Text.dropEnds_inside Text.isBlank text.toList
  have room := (Text.dropEnds_inside (· == '/') (Path.dropCurrent (slashed text))).length_le
  rw [← core, whole] at room
  have trimmed : Text.dropEnds Text.isBlank text.toList = text.toList := by
    refine outer.eq_of_length (Nat.le_antisymm outer.length_le ?_)
    rw [← length_slashed]
    exact room.trans inner.length_le
  have kept : slashed text = text.toList := (slashed_eq text forward).trans trimmed
  rw [kept] at inner room
  refine ⟨(Text.dropEnds_eq_self_iff _ _).mp trimmed, ?_, unslashed, forward, named⟩
  exact (Path.dropCurrent_eq_self_iff _).mp (inner.eq_of_length (Nat.le_antisymm inner.length_le room))

/-- What was brought to the compared form is changed again just when there still are blanks around it or
a `./` in front. -/
theorem normalize_twice_iff (raw : String) : normalize (normalize raw) = normalize raw ↔
    Text.Bare Text.isBlank (normalize raw).toList ∧ ¬ ['.', '/'] <+: (normalize raw).toList := by
  obtain ⟨unslashed, forward, named⟩ := normalize_shape raw
  rw [normalize_eq_self_iff]
  exact ⟨fun compared => ⟨compared.trimmed, compared.begins⟩,
    fun ⟨trimmed, begins⟩ => ⟨trimmed, begins, unslashed, forward, named⟩⟩

/-- A text in which no blank stands next to a slash and no `.` between two of them. -/
structure Tight (text : List Char) : Prop where
  behind : ∀ character, Text.isBlank character = true → ¬ ['/', character] <:+: text
  before : ∀ character, Text.isBlank character = true → ¬ [character, '/'] <:+: text
  between : ¬ ['/', '.', '/'] <:+: text

theorem compared_of_tight {raw : String} (tight : Tight (slashed raw)) : Compared (normalize raw).toList := by
  obtain ⟨unslashed, forward, named⟩ := normalize_shape raw
  suffices clean : Text.Bare Text.isBlank (core raw) ∧ ¬ ['.', '/'] <+: core raw by
    have kept : Text.Bare Text.isBlank (normalize raw).toList ∧ ¬ ['.', '/'] <+: (normalize raw).toList := by
      rw [toList_normalize]
      split
      · exact ⟨⟨nofun, nofun⟩, by simp⟩
      · exact clean
    exact ⟨kept.1, kept.2, unslashed, forward, named⟩
  have bare := bare_slashed raw
  obtain ⟨front, back, whole, ends, starts⟩ := core_parts raw
  -- A slash that ends the front would stand next to whatever the core begins with.
  have reach : ∀ start : List Char, start <+: core raw → front.getLast? = some '/' →
      '/' :: start <:+: slashed raw := by
    rintro start ⟨rest, inside⟩ last
    obtain ⟨others, rfl⟩ := List.getLast?_eq_some_iff.mp last
    exact ⟨others, rest ++ back, by rw [whole, ← inside]; simp⟩
  refine ⟨⟨fun first found => ?_, fun last found => ?_⟩, fun dotted => ?_⟩
  · obtain ⟨rest, inside⟩ := List.head?_eq_some_iff.mp found
    rw [← Bool.not_eq_true]
    intro blank
    rcases ends with ⟨rfl, -⟩ | slash
    · refine Bool.false_ne_true ((bare.1 first ?_).symm.trans blank)
      rw [whole, inside]
      rfl
    · exact tight.behind first blank (reach [first] ⟨rest, inside.symm⟩ slash)
  · obtain ⟨rest, inside⟩ := List.getLast?_eq_some_iff.mp found
    rw [← Bool.not_eq_true]
    intro blank
    rcases starts with rfl | slash
    · refine Bool.false_ne_true ((bare.2 last ?_).symm.trans blank)
      rw [whole, List.append_nil, inside, ← List.append_assoc]
      exact List.getLast?_concat
    · obtain ⟨others, rfl⟩ := List.head?_eq_some_iff.mp slash
      exact tight.before last blank ⟨front ++ rest, others, by rw [whole, inside]; simp⟩
  · rcases ends with ⟨-, apart⟩ | slash
    · exact apart dotted
    · exact tight.between (reach _ dotted slash)

end PathFilter

end UiContract
