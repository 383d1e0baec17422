import UiContract.Toml.Document

/-!
The data of TOML documents. No table has a name twice and nothing is missing anywhere, however a table
was put together, and a document as a whole is a table.
-/
namespace UiContract

def entryNames {α : Type} (entries : List (Key × α)) : List String :=
  entries.map fun entry => entry.1.name

/-- A datum without null in which no table has a name twice. -/
inductive Datum.Proper : Datum → Prop where
  | scalar (span : Option Span) (value : Scalar) (given : value ≠ .null) :
      Datum.Proper (.scalar span value)
  | sequence (span : Option Span) (items : List Datum) (each : ∀ item ∈ items, item.Proper) :
      Datum.Proper (.sequence span items)
  | table (span : Option Span) (entries : List (Key × Datum)) (distinct : (entryNames entries).Nodup)
      (each : ∀ entry ∈ entries, entry.2.Proper) : Datum.Proper (.table span entries)

namespace Toml

def Only {Reason α : Type} (result : Except Reason α) (property : α → Prop) : Prop :=
  ∀ value, result = .ok value → property value

section

variable {Reason α β : Type} {property : β → Prop}

theorem only_ok {value : β} (holds : property value) : Only (.ok value : Except Reason β) property := by
  intro other same
  rw [← Except.ok.inj same]
  exact holds

theorem only_error (reason : Reason) : Only (.error reason : Except Reason β) property :=
  fun _ same => nomatch same

theorem only_bind {first : Except Reason α} {next : α → Except Reason β} {middle : α → Prop}
    (given : Only first middle) (rest : ∀ value, middle value → Only (next value) property) :
    Only (first >>= next) property := by
  cases read : first with
  | error reason => exact only_error reason
  | ok value => exact rest value (given value read)

end

namespace Node

inductive Proper : Node → Prop where
  | value (datum : Datum) (given : datum.Proper) : Proper (.value datum)
  | table (origin : Origin) (entries : List (Key × Node)) (distinct : (entryNames entries).Nodup)
      (each : ∀ entry ∈ entries, Proper entry.2) : Proper (.table origin entries)
  | tables (elements : List Node) (each : ∀ element ∈ elements, Proper element) :
      Proper (.tables elements)

inductive IsTable : Node → Prop where
  | mk (origin : Origin) (entries : List (Key × Node)) : IsTable (.table origin entries)

structure Sound (node : Node) : Prop where
  proper : node.Proper
  table : node.IsTable

variable {node inner : Node}

theorem empty_sound : empty.Sound := ⟨.table {} [] .nil nofun, .mk _ _⟩

theorem fresh_sound (origin : Origin) : (table origin []).Sound :=
  ⟨.table origin [] .nil nofun, .mk _ _⟩

theorem entries_proper (proper : node.Proper) :
    (entryNames node.entries).Nodup ∧ ∀ entry ∈ node.entries, entry.2.Proper := by
  cases proper with
  | value datum given => exact ⟨.nil, nofun⟩
  | table origin entries distinct each => exact ⟨distinct, each⟩
  | tables elements each => exact ⟨.nil, nofun⟩

theorem withOrigin_sound (origin : Origin) (sound : node.Sound) :
    (node.withOrigin origin).Sound := by
  obtain ⟨proper, ⟨own, entries⟩⟩ := sound
  obtain ⟨distinct, each⟩ := entries_proper proper
  exact ⟨.table origin entries distinct each, .mk _ _⟩

theorem insert_sound (proper : node.Proper) (key : Key) (given : inner.Proper) :
    (node.insert key inner).Sound := by
  obtain ⟨distinct, each⟩ := entries_proper proper
  unfold insert
  dsimp only
  split
  · -- The key keeps its place, so the names stay as they are.
    have same : entryNames (node.entries.map fun entry =>
        if entry.1.name == key.name then (entry.1, inner) else entry) = entryNames node.entries := by
      unfold entryNames
      rw [List.map_map]
      refine List.map_congr_left fun entry _ => ?_
      dsimp only [Function.comp]
      split <;> rfl
    refine ⟨.table _ _ (by rw [same]; exact distinct) ?_, .mk _ _⟩
    intro entry member
    obtain ⟨old, listed, rfl⟩ := List.mem_map.mp member
    split
    · exact given
    · exact each old listed
  · rename_i absent
    refine ⟨.table _ _ ?_ ?_, .mk _ _⟩
    · unfold entryNames at distinct ⊢
      rw [List.map_append, List.nodup_append]
      refine ⟨distinct, List.pairwise_singleton _ _, ?_⟩
      intro name member other last same
      rw [List.mem_singleton.mp last] at same
      obtain ⟨entry, listed, called⟩ := List.mem_map.mp member
      refine absent (List.any_eq_true.mpr ⟨entry, listed, ?_⟩)
      rw [called, same]
      exact beq_self_eq_true _
    · intro entry member
      obtain old | new := List.mem_append.mp member
      · exact each entry old
      · rw [List.mem_singleton.mp new]
        exact given

theorem remove_sound (name : String) (proper : node.Proper) : (node.remove name).Sound := by
  obtain ⟨distinct, each⟩ := entries_proper proper
  refine ⟨.table _ _ (distinct.sublist (List.Sublist.map _ List.filter_sublist)) ?_, .mk _ _⟩
  exact fun entry member => each entry (List.mem_filter.mp member).1

theorem find_proper (proper : node.Proper) {name : String} (found : node.find? name = some inner) :
    inner.Proper := by
  obtain ⟨entry, hit, rfl⟩ := Option.map_eq_some_iff.mp found
  exact (entries_proper proper).2 entry (List.mem_of_find?_eq_some hit)

theorem lastTable_proper {elements : List Node} (proper : (tables elements).Proper) :
    ((tables elements).lastTable?.getD empty).Proper := by
  cases proper with
  | tables elements each =>
      unfold lastTable?
      dsimp only
      cases last : elements.getLast? with
      | none => exact empty_sound.proper
      | some element => exact each element (List.mem_of_getLast? last)

theorem replaceLast_proper {elements : List Node} (proper : (tables elements).Proper)
    (given : inner.Proper) : ((tables elements).replaceLast inner).Proper := by
  cases proper with
  | tables elements each =>
      refine .tables _ fun element member => ?_
      obtain old | new := List.mem_append.mp member
      · exact each element ((List.dropLast_sublist elements).subset old)
      · rw [List.mem_singleton.mp new]
        exact given

/-- Going down a path changes no more than the table at its end and what is above that. -/
theorem descend_proper (descent : Descent) (change : Node → Except TableFault Node)
    (keeps : ∀ node : Node, node.Proper → Only (change node) Proper) (path : List Key) :
    ∀ gone (node : Node), node.Proper → Only (descend descent change gone path node) Proper := by
  induction path with
  | nil => exact fun _ node proper => keeps node proper
  | cons key rest ih =>
      intro gone node proper
      unfold descend
      dsimp only
      -- A table that is missing is made, and of an array the way goes through its last table.
      split
      · refine only_bind (ih _ _ (fresh_sound _).proper) fun inner given => ?_
        exact only_ok (insert_sound proper key given).proper
      · split <;> exact only_error _
      · rename_i elements found
        have array := find_proper proper found
        refine only_bind (ih _ _ (lastTable_proper array)) fun inner given => ?_
        exact only_ok (insert_sound proper key (replaceLast_proper array given)).proper
      · rename_i inner _ _ found
        split
        · exact only_error _
        · refine only_bind (ih _ _ (find_proper proper found)) fun changed given => ?_
          exact only_ok (insert_sound proper key given).proper

theorem descend_sound (descent : Descent) (change : Node → Except TableFault Node)
    (keeps : ∀ node : Node, node.Proper → Only (change node) Proper)
    (tables : ∀ node : Node, node.IsTable → Only (change node) IsTable) (gone : List String)
    (path : List Key) (sound : node.Sound) : Only (descend descent change gone path node) Sound := by
  intro after made
  refine ⟨descend_proper descent change keeps path gone node sound.proper after made, ?_⟩
  cases path with
  | nil => exact tables node sound.table after made
  | cons key rest =>
      have inserted : Only (descend descent change gone (key :: rest) node) IsTable := by
        unfold descend
        dsimp only
        split
        · exact only_bind (fun _ _ => trivial) fun _ _ => only_ok (.mk _ _)
        · split <;> exact only_error _
        · exact only_bind (fun _ _ => trivial) fun _ _ => only_ok (.mk _ _)
        · split
          · exact only_error _
          · exact only_bind (fun _ _ => trivial) fun _ _ => only_ok (.mk _ _)
      exact inserted after made

theorem addValue_sound (place : Option (List String)) (inline : Bool) (path : List Key) (key : Key)
    {datum : Datum} (given : datum.Proper) (sound : node.Sound) :
    Only (addValue place inline path key datum node) Sound := by
  refine descend_sound _ _ ?_ ?_ [] path sound
  · intro parent proper
    split
    · exact only_error _
    · split
      · exact only_error _
      · exact only_ok (insert_sound proper key (.value datum given)).proper
  · intro parent _
    split
    · exact only_error _
    · split
      · exact only_error _
      · exact only_ok (.mk _ _)

theorem data_eq (entries : List (Key × Node)) :
    data entries = entries.map fun entry => (entry.1, entry.2.datum) := by
  induction entries with
  | nil => rfl
  | cons entry rest ih =>
      rw [List.map_cons, ← ih]
      rfl

theorem items_eq (elements : List Node) : items elements = elements.map datum := by
  induction elements with
  | nil => rfl
  | cons element rest ih =>
      rw [List.map_cons, ← ih]
      rfl

theorem names_data (entries : List (Key × Node)) : entryNames (data entries) = entryNames entries := by
  rw [data_eq]
  unfold entryNames
  rw [List.map_map]
  rfl

theorem datum_proper (proper : node.Proper) : node.datum.Proper := by
  induction proper with
  | value datum given => exact given
  | table origin entries distinct each ih =>
      unfold datum
      refine .table _ _ (by rw [names_data]; exact distinct) ?_
      rw [data_eq]
      intro entry member
      obtain ⟨own, listed, rfl⟩ := List.mem_map.mp member
      exact ih own listed
  | tables elements each ih =>
      unfold datum
      refine .sequence _ _ ?_
      rw [items_eq]
      intro item member
      obtain ⟨element, listed, rfl⟩ := List.mem_map.mp member
      exact ih element listed

end Node

namespace Assembly

structure Sound (assembly : Assembly) : Prop where
  root : assembly.root.Sound
  current : assembly.current.Sound

variable {assembly : Assembly}

theorem start_sound : ({} : Assembly).Sound := ⟨Node.empty_sound, Node.fresh_sound _⟩

theorem addEntry_sound (sound : assembly.Sound) (path : List Key) (key : Key) {datum : Datum}
    (given : datum.Proper) : Only (assembly.addEntry path key datum) Sound := by
  unfold addEntry
  dsimp only
  refine only_bind (Node.addValue_sound _ false path key given
    (Node.withOrigin_sound _ sound.current)) fun current changed => ?_
  exact only_ok ⟨sound.root, changed⟩

theorem close_sound (sound : assembly.Sound) : Only assembly.close Sound := by
  unfold close
  split
  · exact only_ok ⟨sound.current, Node.empty_sound⟩
  · rename_i key _
    dsimp only
    refine only_bind (Node.descend_sound _ _ ?_ ?_ [] _ sound.root) fun root changed =>
      only_ok ⟨changed, Node.empty_sound⟩
    · intro parent proper
      split
      · -- The table is one more of an array.
        split
        · rename_i elements held
          refine only_ok (Node.insert_sound proper key (.tables _ ?_)).proper
          have array : (Node.tables elements).Proper := by
            rw [← held]
            cases found : parent.find? key.name with
            | none => exact .tables [] nofun
            | some inner => exact Node.find_proper proper found
          cases array with
          | tables elements each =>
              intro element member
              obtain old | new := List.mem_append.mp member
              · exact each element old
              · rw [List.mem_singleton.mp new]
                exact sound.current.proper
        · exact only_error _
      · split
        · exact only_ok (Node.insert_sound proper key sound.current.proper).proper
        · split
          · exact only_ok (Node.insert_sound proper key sound.current.proper).proper
          · exact only_error _
        · exact only_error _
    · intro parent _
      split
      · split
        · exact only_ok (.mk _ _)
        · exact only_error _
      · split
        · exact only_ok (.mk _ _)
        · split
          · exact only_ok (.mk _ _)
          · exact only_error _
        · exact only_error _

theorem reopened_sound (path : List Key) (found : Option Node)
    (proper : ∀ node, found = some node → node.Proper) : Only (reopened path found) Node.Sound := by
  unfold reopened
  split
  · exact only_ok Node.empty_sound
  · rename_i origin entries
    split
    · exact only_ok ⟨proper _ rfl, .mk _ _⟩
    · exact only_error _
  · exact only_error _

/-- What a path leads to below a node, the last table of an array where it comes by one. -/
theorem foldl_proper (path : List Key) (node : Option Node)
    (proper : ∀ found, node = some found → found.Proper) :
    ∀ found, path.foldl (fun (node : Option Node) (key : Key) => node.bind fun node =>
        match node.find? key.name with
        | some (.tables elements) => elements.getLast?
        | other => other) node = some found → found.Proper := by
  induction path generalizing node with
  | nil => exact proper
  | cons key rest ih =>
      rw [List.foldl_cons]
      refine ih _ fun found next => ?_
      obtain ⟨parent, rfl, step⟩ := Option.bind_eq_some_iff.mp next
      have own := proper parent rfl
      split at step
      · rename_i elements held
        cases Node.find_proper own held with
        | tables elements each => exact each found (List.mem_of_getLast? step)
      · exact Node.find_proper own step

theorem openTable_sound (sound : assembly.Sound) (path : List Key) (span : Span) :
    Only (assembly.openTable path span) Sound := by
  unfold openTable
  refine only_bind (close_sound sound) fun closed sealed => ?_
  split
  · exact only_ok sealed
  · rename_i key _
    dsimp only
    refine only_bind (Node.descend_sound _ _ (fun node proper => only_ok proper)
      (fun node table => only_ok table) [] _ sealed.root) fun made opened => ?_
    refine only_bind (Node.descend_sound _ _ ?_ ?_ [] _ opened) fun root rooted => ?_
    · intro parent proper
      exact only_bind (fun _ _ => trivial) fun _ _ => only_ok (Node.remove_sound _ proper).proper
    · intro parent _
      exact only_bind (fun _ _ => trivial) fun _ _ => only_ok (.mk _ _)
    · refine only_bind (reopened_sound path _ ?_) fun current held =>
        only_ok ⟨rooted, Node.withOrigin_sound _ held⟩
      intro node found
      obtain ⟨parent, reached, held⟩ := Option.bind_eq_some_iff.mp found
      refine Node.find_proper (foldl_proper _ _ ?_ parent reached) held
      intro first same
      rw [← Option.some.inj same]
      exact opened.proper

theorem openArray_sound (sound : assembly.Sound) (path : List Key) (span : Span) :
    Only (assembly.openArray path span) Sound := by
  unfold openArray
  refine only_bind (close_sound sound) fun closed sealed => ?_
  split
  · exact only_ok sealed
  · rename_i key _
    dsimp only
    refine only_bind (Node.descend_sound _ _ ?_ ?_ [] _ sealed.root) fun root rooted =>
      only_ok ⟨rooted, Node.fresh_sound _⟩
    · intro parent proper
      split
      · exact only_ok (Node.insert_sound proper key (.tables [] nofun)).proper
      · exact only_ok proper
      · exact only_error _
    · intro parent table
      split
      · exact only_ok (.mk _ _)
      · exact only_ok table
      · exact only_error _

theorem finish_proper (sound : assembly.Sound) :
    Only assembly.finish fun datum => datum.Proper ∧ ∃ span entries, datum = .table span entries := by
  unfold finish
  refine only_bind (close_sound sound) fun closed sealed => only_ok ⟨?_, ?_⟩
  · exact Node.datum_proper sealed.root.proper
  · obtain ⟨-, table⟩ := sealed.root
    cases shape : closed.root with
    | table origin entries => exact ⟨_, _, rfl⟩
    | value datum =>
        rw [shape] at table
        exact nomatch table
    | tables elements =>
        rw [shape] at table
        exact nomatch table

end Assembly

end Toml

end UiContract
