import Mathlib.Data.List.Nodup
import UiContract.Decoding
import UiContract.Proofs.SortedMap
import UiContract.Proofs.TomlTables

/-!
What decoded data stands for. Each kind of value has a relation to the data that gives it. A section is
given by fields that are declared: it has no others, a field that is there has the value of its datum, and
one that is missing has its default.
-/
namespace UiContract

namespace Datum

inductive IsText : Datum → String → Prop where
  | mk (span : Option Span) (value : String) : IsText (.scalar span (.text value)) value

inductive IsBoolean : Datum → Bool → Prop where
  | mk (span : Option Span) (value : Bool) : IsBoolean (.scalar span (.boolean value)) value

inductive IsNatural : Datum → Nat → Prop where
  | mk (span : Option Span) (value : Nat) : IsNatural (.scalar span (.integer value)) value

inductive IsNothing : Datum → Prop where
  | sequence (span : Option Span) : IsNothing (.sequence span [])
  | table (span : Option Span) : IsNothing (.table span [])

variable {α : Type}

inductive IsChoice (choices : List (String × α)) : Datum → α → Prop where
  | word (span : Option Span) (name : String) (value : α) (listed : (name, value) ∈ choices) :
      IsChoice choices (.scalar span (.text name)) value
  | table (span : Option Span) (key : Key) (inner : Datum) (value : α)
      (listed : (key.name, value) ∈ choices) (nothing : inner.IsNothing) :
      IsChoice choices (.table span [(key, inner)]) value

inductive IsList (item : Datum → α → Prop) : Datum → List α → Prop where
  | mk (span : Option Span) (items : List Datum) (values : List α)
      (each : List.Forall₂ item items values) : IsList item (.sequence span items) values

inductive IsMap (value : Datum → α → Prop) : Datum → SortedMap String α → Prop where
  | mk (span : Option Span) (entries : List (Key × Datum)) (map : SortedMap String α)
      (present : ∀ entry ∈ entries, ∃ held, map.find? entry.1.name = some held ∧ value entry.2 held)
      (absent : ∀ name, name ∉ entryNames entries → map.find? name = none) :
      IsMap value (.table span entries) map

/-- Such a map, or one with the text of a date or a time under the name that is kept for these. -/
inductive IsMapOrMoment (value : Datum → α → Prop) : Datum → SortedMap String α → Prop where
  | map (datum : Datum) (map : SortedMap String α) (given : IsMap value datum map) :
      IsMapOrMoment value datum map
  | moment (span : Option Span) (text : String) (held : α)
      (given : value (.scalar none (.text text)) held) :
      IsMapOrMoment value (.scalar span (.moment text))
        (SortedMap.ofList [(Decoding.momentKey, held)])

theorem IsMapOrMoment.isMap {item : Datum → α → Prop} {datum : Datum}
    {map : SortedMap String (List α)} (given : datum.IsMapOrMoment (IsList item) map) :
    datum.IsMap (IsList item) map := by
  cases given with
  | map _ _ given => exact given
  | moment _ _ _ given => exact nomatch given

inductive IsGiven (given : Datum → α → Prop) (datum : Datum) : Option α → Prop where
  | mk (value : α) (holds : given datum value) : IsGiven given datum (some value)

end Datum

/-- A field that is declared: its name, what its datum means, where its value is, and its default if it
may be left out. -/
structure Declared (α : Type) where
  {Value : Type}
  name : String
  given : Datum → Value → Prop
  field : α → Value
  fallback : Option Value := none

namespace Declared

variable {α Value : Type}

def required (name : String) (given : Datum → Value → Prop) (field : α → Value) : Declared α :=
  { name, given, field }

def defaulted (name : String) (given : Datum → Value → Prop) (field : α → Value)
    (fallback : Value) : Declared α :=
  { name, given, field, fallback := some fallback }

end Declared

/-- A section: a table whose keys are all declared, or a sequence of the fields in order that may end
before fields with a default. -/
inductive Datum.IsSection {α : Type} (declared : List (Declared α)) : Datum → α → Prop where
  | table (span : Option Span) (entries : List (Key × Datum)) (value : α)
      (known : ∀ entry ∈ entries, ∃ field ∈ declared, field.name = entry.1.name)
      (present : ∀ field ∈ declared, ∀ entry ∈ entries, entry.1.name = field.name →
        field.given entry.2 (field.field value))
      (absent : ∀ field ∈ declared, field.name ∉ entryNames entries →
        field.fallback = some (field.field value)) :
      IsSection declared (.table span entries) value
  | sequence (span : Option Span) (items : List Datum) (value : α)
      (present : ∀ (field : Declared α) item (position : Nat), declared[position]? = some field →
        items[position]? = some item → field.given item (field.field value))
      (absent : ∀ (field : Declared α) (position : Nat), declared[position]? = some field →
        items[position]? = none → field.fallback = some (field.field value)) :
      IsSection declared (.sequence span items) value

namespace Decoding

variable {α β : Type}

def Sound (decoding : Decoding α) (given : Datum → α → Prop) : Prop :=
  ∀ datum value, datum.Proper → decoding.on .toml datum = .ok value → given datum value

section Steps

variable {origin : Origin} {datum : Datum}

theorem placed_ok {span : Option Span} {result : Except DecodingFault α} {value : α}
    (done : placed span result = .ok value) : result = .ok value := by
  unfold placed at done
  split at done
  · exact nomatch done
  · exact done

theorem bind_ok {first : Decoding α} {next : α → Decoding β} {result : β}
    (done : (first >>= next).on origin datum = .ok result) :
    ∃ value, first.on origin datum = .ok value ∧ (next value).on origin datum = .ok result := by
  have step : (first >>= next).on origin datum =
      (first.on origin datum >>= fun value => (next value).on origin datum) := rfl
  rw [step] at done
  cases read : first.on origin datum with
  | error fault =>
      rw [read] at done
      exact nomatch done
  | ok value =>
      rw [read] at done
      exact ⟨value, rfl, done⟩

theorem inside_ok {decoding : Decoding α} {item : Datum} {value : α}
    (done : (inside decoding item).on origin datum = .ok value) : decoding.on origin item = .ok value :=
  placed_ok done

theorem entryValue_ok {decoding : Decoding α} {key : Key} {item : Datum} {value : α}
    (done : (entryValue decoding key item).on origin datum = .ok value) :
    decoding.on origin item = .ok value :=
  placed_ok (placed_ok done)

theorem mapM_ok {Item : Type} (decoding : Item → Decoding α) (items : List Item) (values : List α)
    (done : (items.mapM decoding).on origin datum = .ok values) :
    List.Forall₂ (fun item value => (decoding item).on origin datum = .ok value) items values := by
  induction items generalizing values with
  | nil =>
      obtain rfl := Except.ok.inj done
      exact .nil
  | cons item rest ih =>
      rw [List.mapM_cons] at done
      obtain ⟨value, first, done⟩ := bind_ok done
      obtain ⟨others, later, done⟩ := bind_ok done
      obtain rfl := Except.ok.inj done
      exact .cons first (ih others later)

end Steps

theorem sound_settled {decoding : Decoding α} {given : Datum → α → Prop}
    (sound : Sound decoding given) : Sound (settled decoding) given :=
  fun datum value proper done => sound datum value proper (placed_ok done)

theorem sound_text : Sound text Datum.IsText := by
  refine sound_settled fun datum value _ done => ?_
  cases datum with
  | scalar span scalar =>
      cases scalar with
      | text held =>
          obtain rfl := Except.ok.inj done
          exact .mk span held
      | null | boolean | integer | double | moment => exact nomatch done
  | sequence | table => exact nomatch done

theorem sound_boolean : Sound boolean Datum.IsBoolean := by
  refine sound_settled fun datum value _ done => ?_
  cases datum with
  | scalar span scalar =>
      cases scalar with
      | boolean held =>
          obtain rfl := Except.ok.inj done
          exact .mk span held
      | null | text | integer | double | moment => exact nomatch done
  | sequence | table => exact nomatch done

theorem sound_natural (limit : Nat) (expected : String) :
    Sound (natural limit expected) Datum.IsNatural := by
  refine sound_settled fun datum value _ done => ?_
  cases datum with
  | scalar span scalar =>
      cases scalar with
      | integer held =>
          have inRange : (if 0 ≤ held && held < limit then (pure held.toNat : Decoding Nat)
              else fault (Wording.invalidValue (Wording.integer held) expected)).on .toml
                (.scalar span (.integer held)) = .ok value := done
          split at inRange
          · rename_i bounds
            obtain rfl := Except.ok.inj inRange
            have least : 0 ≤ held := by simp_all
            have given := Datum.IsNatural.mk span held.toNat
            rw [Int.toNat_of_nonneg least] at given
            exact given
          · exact nomatch inRange
      | null | text | boolean | double | moment => exact nomatch done
  | sequence | table => exact nomatch done

theorem sound_list {item : Decoding α} {given : Datum → α → Prop} (sound : Sound item given) :
    Sound (list item) (Datum.IsList given) := by
  refine sound_settled fun datum values proper done => ?_
  cases proper with
  | scalar | table => exact nomatch done
  | sequence span items each =>
      have read := mapM_ok (inside item) items values done
      refine .mk span items values ?_
      clear done
      induction read with
      | nil => exact .nil
      | cons first rest ih =>
          refine .cons (sound _ _ (each _ List.mem_cons_self) (inside_ok first)) (ih ?_)
          exact fun other member => each other (List.mem_cons_of_mem _ member)

theorem sound_optional {decoding : Decoding α} {given : Datum → α → Prop}
    (sound : Sound decoding given) : Sound (optional decoding) (Datum.IsGiven given) := by
  intro datum value proper done
  obtain ⟨subject, same, done⟩ := bind_ok done
  obtain rfl := Except.ok.inj same
  have present : ∃ held, decoding.on .toml datum = .ok held ∧ value = some held := by
    cases proper with
    | scalar span scalar present =>
        cases scalar with
        | null => contradiction
        | text | boolean | integer | double | moment =>
            obtain ⟨held, read, done⟩ := bind_ok done
            exact ⟨held, read, (Except.ok.inj done).symm⟩
    | sequence | table =>
        obtain ⟨held, read, done⟩ := bind_ok done
        exact ⟨held, read, (Except.ok.inj done).symm⟩
  obtain ⟨held, read, rfl⟩ := present
  exact .mk held (sound datum held proper read)

/-- The entries of a map are decoded one by one, under the names of their keys. -/
theorem map_ok {value : Decoding α} {datum : Datum} {result : SortedMap String α}
    {entries : List (Key × Datum)} (viewed : entries? datum = some entries)
    (done : (map value).on .toml datum = .ok result) : ∃ pairs : List (String × α),
      List.Forall₂ (fun entry pair => entry.1.name = pair.1 ∧ value.on .toml entry.2 = .ok pair.2)
        entries pairs ∧ result = SortedMap.ofList pairs := by
  obtain ⟨subject, same, done⟩ := bind_ok (placed_ok done)
  obtain rfl := Except.ok.inj same
  rw [viewed] at done
  obtain ⟨pairs, read, made⟩ := bind_ok done
  refine ⟨pairs, (mapM_ok _ entries pairs read).imp fun entry pair first => ?_,
    (Except.ok.inj made).symm⟩
  obtain ⟨held, given, same⟩ := bind_ok first
  rw [← Except.ok.inj same]
  exact ⟨rfl, entryValue_ok given⟩

theorem map_entries {value : Decoding α} {datum : Datum} {result : SortedMap String α}
    (done : (map value).on .toml datum = .ok result) : ∃ entries, entries? datum = some entries := by
  obtain ⟨subject, same, done⟩ := bind_ok (placed_ok done)
  obtain rfl := Except.ok.inj same
  split at done
  · rename_i entries viewed
    exact ⟨entries, viewed⟩
  · obtain ⟨found, -, done⟩ := bind_ok done
    contradiction

theorem names_of_pairs {entries : List (Key × Datum)} {pairs : List (String × α)}
    {given : Key × Datum → String × α → Prop}
    (each : List.Forall₂ (fun entry pair => entry.1.name = pair.1 ∧ given entry pair) entries pairs) :
    entryNames entries = pairs.map Prod.fst := by
  induction each with
  | nil => rfl
  | cons first rest ih =>
      unfold entryNames at ih ⊢
      rw [List.map_cons, List.map_cons, ih, first.1]

theorem pair_of_mem {Item Pair : Type*} {relates : Item → Pair → Prop} {items : List Item}
    {pairs : List Pair} (each : List.Forall₂ relates items pairs) (item : Item)
    (member : item ∈ items) : ∃ pair ∈ pairs, relates item pair := by
  induction each with
  | nil => contradiction
  | cons first rest ih =>
      obtain rfl | later := List.mem_cons.mp member
      · exact ⟨_, List.mem_cons_self, first⟩
      · obtain ⟨pair, listed, holds⟩ := ih later
        exact ⟨pair, List.mem_cons_of_mem _ listed, holds⟩

theorem sound_map {value : Decoding α} {given : Datum → α → Prop} (sound : Sound value given) :
    Sound (map value) (Datum.IsMapOrMoment given) := by
  intro datum result proper done
  obtain ⟨entries, viewed⟩ := map_entries done
  obtain ⟨pairs, read, rfl⟩ := map_ok viewed done
  cases proper with
  | sequence => contradiction
  | scalar span scalar present =>
      cases scalar with
      | null | text | boolean | integer | double => contradiction
      | moment text =>
          obtain rfl := Option.some.inj viewed
          obtain ⟨pair, listed, called, first⟩ := pair_of_mem read _ List.mem_cons_self
          obtain ⟨name, held⟩ := pair
          obtain rfl : momentKey = name := called
          have single : pairs = [(momentKey, held)] := by
            obtain ⟨other, rfl⟩ := List.length_eq_one_iff.mp read.length_eq.symm
            rw [List.mem_singleton.mp listed]
          rw [single]
          -- The text of a moment is decoded like any other text.
          have proper : (Datum.scalar none (.text text)).Proper := .scalar none _ (by simp)
          exact .moment span text held (sound _ held proper first)
  | table span entries' distinct each =>
      obtain rfl := Option.some.inj viewed
      have names := names_of_pairs read
      refine .map _ _ (.mk span entries' _ ?_ ?_)
      · intro entry member
        obtain ⟨pair, listed, named, first⟩ := pair_of_mem read entry member
        rw [names] at distinct
        refine ⟨pair.2, ?_, sound entry.2 pair.2 (each entry member) first⟩
        rw [named]
        exact SortedMap.find_ofList pairs distinct pair listed
      · intro name missing
        rw [names] at missing
        have unknown := (SortedMap.contains_ofList pairs name).not.mpr missing
        unfold SortedMap.contains at unknown
        simpa using unknown

theorem choice_ok {name : String} {choices : List (String × α)} {value : α} {origin : Origin}
    {datum : Datum} (done : (choice name choices).on origin datum = .ok value) :
    (name, value) ∈ choices := by
  unfold choice at done
  split at done
  · rename_i entry found
    obtain rfl := Except.ok.inj done
    have named := List.find?_some found
    rw [← beq_iff_eq.mp named]
    exact List.mem_of_find?_eq_some found
  · exact nomatch done

theorem nothing_ok {datum : Datum} {value : Unit} (done : nothing.on .toml datum = .ok value) :
    datum.IsNothing := by
  cases datum with
  | scalar => exact nomatch done
  | sequence span items =>
      cases items with
      | nil => exact .sequence span
      | cons => exact nomatch done
  | table span entries =>
      cases entries with
      | nil => exact .table span
      | cons => exact nomatch done

theorem sound_variant (choices : List (String × α)) :
    Sound (variant choices) (Datum.IsChoice choices) := by
  refine sound_settled fun datum value _ done => ?_
  cases datum with
  | sequence => exact nomatch done
  | scalar span scalar =>
      cases scalar with
      | text name => exact .word span name value (choice_ok done)
      | null | boolean | integer | double | moment => exact nomatch done
  | table span entries =>
      match entries with
      | [] => exact nomatch done
      | [(key, inner)] =>
          obtain ⟨origin, same, done⟩ := bind_ok done
          obtain ⟨subject, same', done⟩ := bind_ok done
          obtain rfl := Except.ok.inj same
          obtain rfl := Except.ok.inj same'
          obtain ⟨chosen, first, done⟩ := bind_ok done
          obtain ⟨_, empty, done⟩ := bind_ok done
          obtain rfl := Except.ok.inj done
          exact .table span key inner chosen (choice_ok (placed_ok first))
            (nothing_ok (inside_ok empty))
      | _ :: _ :: _ => exact nomatch done

structure Slot (Draft α : Type) extends Declared α where
  known : Draft → Option Value

variable {Draft : Type}

structure Slot.Ends (slot : Slot Draft α) (draft : Draft) (value : α) : Prop where
  known : ∀ held, slot.known draft = some held → held = slot.field value
  unknown : slot.known draft = none → slot.fallback = some (slot.field value)

theorem Slot.ends_known {slot : Slot Draft α} {draft : Draft} {value : α}
    (known : slot.known draft = some (slot.field value)) : slot.Ends draft value where
  known held same := by
    rw [known] at same
    exact (Option.some.inj same).symm
  unknown none := by
    rw [known] at none
    exact nomatch none

theorem Slot.ends_default {slot : Slot Draft α} {draft : Draft} {value : α} {default : slot.Value}
    (fallback : slot.fallback = some default)
    (field : slot.field value = (slot.known draft).getD default) : slot.Ends draft value where
  known held same := by
    rw [field, same]
    rfl
  unknown none := by
    rw [fallback, field, none]
    rfl

structure Reads (slots : List (Slot Draft α)) (field : Field Draft) (slot : Slot Draft α) : Prop where
  name : field.name = slot.name
  read : ∀ draft datum after, datum.Proper → (field.read draft).on .toml datum = .ok after →
    (∃ value, slot.known after = some value ∧ slot.given datum value) ∧
      ∀ other ∈ slots, other.name ≠ slot.name → other.known after = other.known draft

/-- A table is decoded slot by slot: it has no other fields, and at the end each value is the one that is
known, or the default. -/
structure Follows (record : Record Draft α) (slots : List (Slot Draft α)) : Prop where
  closed : record.closed = true
  fields : List.Forall₂ (Reads slots) record.fields slots
  distinct : (slots.map fun slot => slot.name).Nodup
  apart : ∀ slot ∈ slots, slot.name ≠ momentKey
  blank : ∀ slot ∈ slots, slot.known record.blank = none
  finish : ∀ draft value, record.finish draft = .ok value → ∀ slot ∈ slots, slot.Ends draft value

theorem reads_of {slots : List (Slot Draft α)} {field : Field Draft} {slot : Slot Draft α}
    {decoding : Decoding slot.Value} {put : Draft → slot.Value → Draft}
    (sound : Sound decoding slot.given) (name : field.name = slot.name)
    (shape : ∀ draft, field.read draft = do return put draft (← decoding))
    (stored : ∀ draft value, slot.known (put draft value) = some value)
    (others : ∀ draft value, ∀ other ∈ slots, other.name ≠ slot.name →
      other.known (put draft value) = other.known draft) : Reads slots field slot := by
  refine ⟨name, fun draft datum after proper done => ?_⟩
  rw [shape] at done
  obtain ⟨value, read, done⟩ := bind_ok done
  obtain rfl := Except.ok.inj done
  exact ⟨⟨value, stored draft value, sound datum value proper read⟩, others draft value⟩

section Tables

variable {record : Record Draft α} {slots : List (Slot Draft α)} {datum : Datum}

/-- Entries whose names are all different: each is declared and fills its slot, and what has no entry
stays as it is. -/
theorem fields_ok (follows : Follows record slots) (entries : List (Key × Datum))
    (distinct : (entryNames entries).Nodup) (proper : ∀ entry ∈ entries, entry.2.Proper)
    (draft after : Draft) (done : (fields record draft entries).on .toml datum = .ok after) :
    (∀ entry ∈ entries, ∃ slot ∈ slots, slot.name = entry.1.name) ∧ ∀ slot ∈ slots,
      (∀ entry ∈ entries, entry.1.name = slot.name →
        ∃ value, slot.known after = some value ∧ slot.given entry.2 value) ∧
      (slot.name ∉ entryNames entries → slot.known after = slot.known draft) := by
  induction entries generalizing draft with
  | nil =>
      obtain rfl := Except.ok.inj done
      exact ⟨nofun, fun slot _ => ⟨nofun, fun _ => rfl⟩⟩
  | cons entry rest ih =>
      obtain ⟨key, item⟩ := entry
      obtain ⟨fresh, others⟩ := List.nodup_cons.mp distinct
      unfold fields at done
      split at done
      · rename_i field found
        obtain ⟨middle, first, done⟩ := bind_ok done
        have rest := ih others (fun other member => proper other (List.mem_cons_of_mem _ member))
          middle done
        obtain ⟨own, listed, reads⟩ := pair_of_mem follows.fields field (List.mem_of_find?_eq_some found)
        have hit := List.find?_some found
        have named : own.name = key.name := reads.name ▸ beq_iff_eq.mp hit
        obtain ⟨⟨value, known, given⟩, kept⟩ := reads.read draft item middle
          (proper _ List.mem_cons_self) (entryValue_ok first)
        refine ⟨fun other member => ?_, fun slot member => ⟨fun other within called => ?_, fun absent => ?_⟩⟩
        · obtain rfl | later := List.mem_cons.mp member
          · exact ⟨own, listed, named⟩
          · exact rest.1 other later
        · obtain ⟨present, untouched⟩ := rest.2 slot member
          obtain rfl | later := List.mem_cons.mp within
          · -- Two slots with one name are one slot.
            have same : slot = own :=
              List.inj_on_of_nodup_map follows.distinct member listed (called.symm.trans named.symm)
            subst same
            refine ⟨value, ?_, given⟩
            rw [untouched (by rw [named]; exact fresh), known]
          · exact present other later called
        · obtain ⟨-, untouched⟩ := rest.2 slot member
          have apart := List.ne_of_not_mem_cons absent
          rw [untouched (List.not_mem_of_not_mem_cons absent)]
          exact kept slot member fun same => apart (same.trans named)
      · rw [if_pos follows.closed] at done
        exact nomatch done

/-- Fields in the order of a sequence: each item fills its slot, and what has no item stays as it is. -/
theorem fieldsInOrder_ok {fields : List (Field Draft)} {own : List (Slot Draft α)}
    (each : List.Forall₂ (Reads slots) fields own) (inside_ : ∀ slot ∈ own, slot ∈ slots)
    (distinct : (own.map fun slot => slot.name).Nodup) (items : List Datum)
    (proper : ∀ item ∈ items, item.Proper) (index : Nat) (draft after : Draft)
    (done : (fieldsInOrder record index draft fields items).on .toml datum = .ok after) :
    (∀ slot (position : Nat), own[position]? = some slot →
      (∀ item, items[position]? = some item →
        ∃ value, slot.known after = some value ∧ slot.given item value) ∧
      (items[position]? = none → slot.known after = slot.known draft)) ∧
    ∀ slot ∈ slots, slot.name ∉ own.map (fun slot => slot.name) →
      slot.known after = slot.known draft := by
  induction each generalizing items index draft with
  | nil =>
      have same : after = draft := by
        unfold fieldsInOrder at done
        obtain ⟨origin, told, done⟩ := bind_ok done
        obtain rfl := Except.ok.inj told
        exact (Except.ok.inj done).symm
      rw [same]
      exact ⟨nofun, fun slot _ _ => rfl⟩
  | @cons field slot fields own reads rest ih =>
      obtain ⟨fresh, others⟩ := List.nodup_cons.mp distinct
      have inner := fun other member => inside_ other (List.mem_cons_of_mem _ member)
      cases items with
      | nil =>
          unfold fieldsInOrder at done
          split at done
          · obtain ⟨inOrder, untouched⟩ := ih inner others [] nofun (index + 1) draft done
            refine ⟨fun other position there => ⟨nofun, fun _ => ?_⟩, fun other member absent => ?_⟩
            · cases position with
              | zero =>
                  -- No field that follows fills the slot.
                  obtain rfl := Option.some.inj there
                  exact untouched slot (inside_ slot List.mem_cons_self) fresh
              | succ position => exact (inOrder other position there).2 rfl
            · exact untouched other member (List.not_mem_of_not_mem_cons absent)
          · exact nomatch done
      | cons item items =>
          unfold fieldsInOrder at done
          obtain ⟨middle, first, done⟩ := bind_ok done
          obtain ⟨⟨value, known, given⟩, kept⟩ := reads.read draft item middle
            (proper item List.mem_cons_self) (inside_ok first)
          obtain ⟨inOrder, untouched⟩ := ih inner others items
            (fun other member => proper other (List.mem_cons_of_mem _ member)) (index + 1) middle done
          refine ⟨fun other position there => ?_, fun other member absent => ?_⟩
          · cases position with
            | zero =>
                obtain rfl := Option.some.inj there
                refine ⟨fun other same => ?_, nofun⟩
                obtain rfl := Option.some.inj same
                refine ⟨value, ?_, given⟩
                rw [untouched slot (inside_ slot List.mem_cons_self) fresh, known]
            | succ position =>
                obtain ⟨present, missing⟩ := inOrder other position there
                have listed : other ∈ own := List.mem_of_getElem? there
                have apart : other.name ≠ slot.name := by
                  intro same
                  refine fresh (List.mem_map.mpr ⟨other, listed, same⟩)
                refine ⟨present, fun none => ?_⟩
                rw [missing none]
                exact kept other (inner other listed) apart
          · rw [untouched other member (List.not_mem_of_not_mem_cons absent)]
            exact kept other member (List.ne_of_not_mem_cons absent)

theorem sound_table (follows : Follows record slots) :
    Sound (table record) (Datum.IsSection (slots.map Slot.toDeclared)) := by
  refine sound_settled fun datum value proper done => ?_
  obtain ⟨subject, same, done⟩ := bind_ok done
  obtain rfl := Except.ok.inj same
  have ends : ∀ after, (result record after).on .toml datum = .ok value → ∀ slot ∈ slots,
      slot.Ends after value := by
    intro after done
    unfold result at done
    split at done
    · rename_i made finished
      rw [Except.ok.inj done] at finished
      exact follows.finish after value finished
    · exact nomatch done
  cases proper with
  | scalar span scalar present =>
      cases scalar with
      | null | text | boolean | integer | double => exact nomatch done
      | moment text =>
          -- A date or a time is read as a table with a key that no section declares.
          obtain ⟨after, read, -⟩ := bind_ok done
          obtain ⟨known, -⟩ := fields_ok follows [({ name := momentKey }, .scalar none (.text text))]
            (List.pairwise_singleton _ _)
            (fun _ member => List.mem_singleton.mp member ▸ .scalar none _ nofun) record.blank after read
          obtain ⟨slot, listed, named⟩ := known _ List.mem_cons_self
          exact absurd named (follows.apart slot listed)
  | table span entries distinct each =>
      obtain ⟨after, read, done⟩ := bind_ok done
      obtain ⟨known, filled⟩ := fields_ok follows entries distinct each record.blank after read
      refine .table span entries value (fun entry member => ?_) ?_ ?_
      · obtain ⟨slot, listed, named⟩ := known entry member
        exact ⟨slot.toDeclared, List.mem_map_of_mem listed, named⟩
      · intro field member entry within named
        obtain ⟨slot, listed, rfl⟩ := List.mem_map.mp member
        obtain ⟨held, holds, given⟩ := (filled slot listed).1 entry within named
        rw [← (ends after done slot listed).known held holds]
        exact given
      · intro field member absent
        obtain ⟨slot, listed, rfl⟩ := List.mem_map.mp member
        refine (ends after done slot listed).unknown ?_
        rw [(filled slot listed).2 absent, follows.blank slot listed]
  | sequence span items each =>
      obtain ⟨after, read, done⟩ := bind_ok done
      obtain ⟨inOrder, -⟩ := fieldsInOrder_ok follows.fields (fun _ member => member) follows.distinct
        items each 0 record.blank after read
      refine .sequence span items value ?_ ?_
      · intro field item position there within
        rw [List.getElem?_map] at there
        obtain ⟨slot, listed, rfl⟩ := Option.map_eq_some_iff.mp there
        obtain ⟨held, holds, given⟩ := (inOrder slot position listed).1 item within
        rw [← (ends after done slot (List.mem_of_getElem? listed)).known held holds]
        exact given
      · intro field position there missing
        rw [List.getElem?_map] at there
        obtain ⟨slot, listed, rfl⟩ := Option.map_eq_some_iff.mp there
        have member := List.mem_of_getElem? listed
        refine (ends after done slot member).unknown ?_
        rw [(inOrder slot position listed).2 missing, follows.blank slot member]

end Tables

end Decoding

end UiContract
