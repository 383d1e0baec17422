import UiContract.Proofs.TomlTables

/-!
What comes of reading a TOML text. Whatever values, lines and documents a reading gives, their tables
have each name once and they hold no null.
-/
namespace UiContract.Toml

def Yields {α : Type} (reading : Reading α) (property : α → Prop) : Prop :=
  ∀ input, Only (reading input) fun read => property read.1

section

variable {α β : Type} {reading : Reading α} {property : α → Prop}

theorem yields_any (reading : Reading α) : Yields reading fun _ => True :=
  fun _ _ _ => trivial

theorem yields_pure {value : α} (holds : property value) : Yields (pure value) property :=
  fun _ => only_ok holds

theorem yields_bind {next : α → Reading β} {result : β → Prop} (given : Yields reading property)
    (rest : ∀ value, property value → Yields (next value) result) : Yields (reading >>= next) result :=
  fun input => only_bind (given input) fun read holds => rest read.1 holds read.2

theorem yields_after {next : α → Reading β} {result : β → Prop}
    (rest : ∀ value, Yields (next value) result) : Yields (reading >>= next) result :=
  yields_bind (yields_any reading) fun value _ => rest value

theorem yields_fault (message : String) : Yields (fault message : Reading α) property :=
  fun _ => only_error _

theorem yields_faultBehind (count : Nat) (message : String) :
    Yields (faultBehind count message : Reading α) property :=
  fun _ => only_error _

theorem yields_softFault (message : String) : Yields (softFault message : Reading α) property :=
  fun _ => only_error _

theorem yields_firmly (given : Yields reading property) : Yields (firmly reading) property := by
  intro input read done
  unfold firmly at done
  split at done
  · exact nomatch done
  · exact given input read done

theorem yields_attempt (given : Yields reading property) :
    Yields (attempt reading) fun read => ∀ value, read = some value → property value := by
  intro input read done
  unfold attempt at done
  split at done
  · rename_i value after first
    rw [← Except.ok.inj done]
    intro other same
    rw [← Option.some.inj same]
    exact given input _ first
  · split at done
    · rw [← Except.ok.inj done]
      exact nofun
    · exact nomatch done

theorem yields_added (start : Input) (label : String) {made : Except TableFault α}
    (given : Only made property) : Yields (added start label made) property := by
  unfold added
  split
  · exact yields_pure (given _ rfl)
  · exact yields_after fun _ => yields_fault _

end

theorem integerOf_given (base skipped length : Nat) :
    Yields (integerOf base skipped length) (· ≠ .null) := by
  refine yields_after fun rest => ?_
  dsimp only
  split
  · exact yields_fault _
  · split
    · exact yields_fault _
    · exact yields_after fun _ => yields_pure nofun

theorem fractionOf_given (length : Nat) : Yields (fractionOf length) (· ≠ .null) := by
  have ends : ∀ value : Double, Yields (do
      if value == .infinite false then fault badFraction
      else
        take length
        return Scalar.double value) (· ≠ .null) := by
    intro value
    split
    · exact yields_fault _
    · exact yields_after fun _ => yields_pure nofun
  exact yields_after fun rest => ends _

theorem integer_given : Yields integer (· ≠ .null) := by
  refine yields_after fun rest => ?_
  split
  · split
    · exact integerOf_given _ _ _
    · exact yields_faultBehind _ _
    · exact yields_fault _
  · split
    · exact integerOf_given _ _ _
    · exact yields_faultBehind _ _
    · exact fun _ => only_error _

theorem number_given : Yields number (· ≠ .null) := by
  refine yields_after fun rest => ?_
  split
  · exact yields_after fun _ => yields_pure nofun
  · exact yields_faultBehind _ _
  · split
    · exact fractionOf_given _
    · exact yields_faultBehind _ _
    · split
      · exact yields_after fun _ => yields_pure nofun
      · exact integer_given

theorem wordValue_given (word : String) (value : Scalar) (given : value ≠ .null) (soft : Bool) :
    Yields (wordValue word value soft) (· ≠ .null) := by
  refine yields_after fun rest => ?_
  split
  · exact yields_after fun _ => yields_pure given
  · split
    · exact yields_softFault _
    · exact yields_fault _

theorem scalar_given : Yields scalar (· ≠ .null) := by
  refine yields_after fun first => ?_
  split
  · exact yields_softFault _
  · split
    · exact yields_after fun _ => yields_pure nofun
    · split
      · exact number_given
      · split
        · exact yields_softFault _
        · split
          · exact yields_softFault _
          · split
            · exact wordValue_given _ (.boolean true) nofun _
            · split
              · exact wordValue_given _ (.boolean false) nofun _
              · split
                · exact wordValue_given _ (.double (.infinite false)) nofun _
                · split
                  · exact wordValue_given _ (.double .notANumber) nofun _
                  · exact yields_softFault _

section

variable {value : Reading Datum}

theorem spacedValue_proper (given : Yields value Datum.Proper) :
    Yields (spacedValue value) Datum.Proper := by
  refine yields_after fun _ => yields_bind given fun read proper => ?_
  exact yields_after fun _ => yields_pure proper

theorem moreValues_proper (given : Yields value Datum.Proper) (count : Nat) (read : List Datum)
    (each : ∀ item ∈ read, item.Proper) :
    Yields (moreValues value count read) fun items => ∀ item ∈ items, item.Proper := by
  induction count generalizing read with
  | zero => exact yields_pure each
  | succ count ih =>
      refine yields_after fun character => ?_
      split
      · refine yields_bind (yields_attempt (yields_after fun _ => spacedValue_proper given)) ?_
        intro next proper
        split
        · rename_i item
          refine ih _ fun other member => ?_
          obtain rfl | old := List.mem_cons.mp member
          · exact proper other rfl
          · exact each other old
        · exact yields_pure each
      · exact yields_pure each

theorem arrayRest_proper (given : Yields value Datum.Proper) :
    Yields (arrayRest value) fun items => ∀ item ∈ items, item.Proper := by
  have ends : ∀ items : List Datum, (∀ item ∈ items, item.Proper) →
      Yields (do
        skipGap
        if (← peek) == some ']' then
          take 1
          return items
        else fault "invalid array\nexpected \x60]\x60") fun items => ∀ item ∈ items, item.Proper := by
    intro items each
    refine yields_after fun _ => yields_after fun character => ?_
    split
    · exact yields_after fun _ => yields_pure each
    · exact yields_fault _
  refine yields_after fun character => ?_
  split
  · exact yields_after fun _ => yields_pure nofun
  · refine yields_bind (yields_attempt (spacedValue_proper given)) fun first proper => ?_
    split
    · rename_i item
      refine yields_after fun rest => ?_
      refine yields_bind (moreValues_proper given _ [item] ?_) fun read each => ?_
      · intro other member
        rw [List.mem_singleton.mp member]
        exact proper item rfl
      · have reversed : ∀ item ∈ read.reverse, item.Proper :=
          fun item member => each item (List.mem_reverse.mp member)
        refine yields_after fun character => ?_
        split
        · exact yields_after fun _ => ends _ reversed
        · exact ends _ reversed
    · exact ends [] nofun

theorem inlineEntry_proper (given : Yields value Datum.Proper) :
    Yields (inlineEntry value) fun entry => entry.2.2.Proper := by
  refine yields_after fun path => yields_firmly ?_
  refine yields_after fun _ => yields_after fun _ => yields_bind given fun read proper => ?_
  exact yields_after fun _ => yields_pure proper

theorem moreEntries_proper (given : Yields value Datum.Proper) (count : Nat)
    (read : List (List Key × Key × Datum)) (each : ∀ entry ∈ read, entry.2.2.Proper) :
    Yields (moreEntries value count read) fun entries => ∀ entry ∈ entries, entry.2.2.Proper := by
  induction count generalizing read with
  | zero => exact yields_pure each
  | succ count ih =>
      refine yields_after fun character => ?_
      split
      · refine yields_bind (yields_attempt (yields_after fun _ => inlineEntry_proper given)) ?_
        intro next proper
        split
        · rename_i entry
          refine ih _ fun other member => ?_
          obtain rfl | old := List.mem_cons.mp member
          · exact proper other rfl
          · exact each other old
        · exact yields_pure each
      · exact yields_pure each

theorem foldlM_sound (entries : List (List Key × Key × Datum))
    (each : ∀ entry ∈ entries, entry.2.2.Proper) (node : Node) (sound : node.Sound) :
    Only (entries.foldlM (fun node (path, key, datum) =>
      Node.addValue none true path key datum node) node) Node.Sound := by
  induction entries generalizing node with
  | nil => exact only_ok sound
  | cons entry rest ih =>
      rw [List.foldlM_cons]
      refine only_bind (Node.addValue_sound none true _ _ (each entry List.mem_cons_self) sound) ?_
      exact fun node sound => ih (fun other member => each other (List.mem_cons_of_mem _ member)) _ sound

def inlineTableEnd (start : Input) (entries : List (List Key × Key × Datum)) :
    Reading (List (Key × Datum)) := do
  skipBlanks
  let made := entries.foldlM (fun node (path, key, datum) =>
    Node.addValue none true path key datum node) Node.empty
  match made with
  | .error problem =>
      set start
      fault problem.message
  | .ok node =>
      if (← peek) == some '}' then
        take 1
        return Node.data node.entries
      else fault "invalid inline table\nexpected \x60\x7d\x60"

theorem inlineTableEnd_proper (start : Input) (entries : List (List Key × Key × Datum))
    (each : ∀ entry ∈ entries, entry.2.2.Proper) (span : Option Span) :
    Yields (inlineTableEnd start entries) fun entries => (Datum.table span entries).Proper := by
  have made := foldlM_sound entries each Node.empty Node.empty_sound
  refine yields_after fun _ => ?_
  dsimp only
  split
  · exact yields_after fun _ => yields_fault _
  · rename_i node done
    refine yields_after fun character => ?_
    split
    · refine yields_after fun _ => yields_pure ?_
      have sound := made node done
      obtain ⟨distinct, inside⟩ := Node.entries_proper sound.proper
      have whole := Node.datum_proper (.table { span } node.entries distinct inside)
      unfold Node.datum at whole
      exact whole
    · exact yields_fault _

theorem inlineTableRest_proper (given : Yields value Datum.Proper) (span : Option Span) :
    Yields (inlineTableRest value) fun entries => (Datum.table span entries).Proper := by
  refine yields_after fun start => ?_
  refine yields_bind (yields_attempt (inlineEntry_proper given)) fun first proper => ?_
  split
  · rename_i entry
    refine yields_after fun rest => ?_
    refine yields_bind (moreEntries_proper given _ [entry] ?_) fun read each => ?_
    · intro other member
      rw [List.mem_singleton.mp member]
      exact proper entry rfl
    · apply inlineTableEnd_proper start
      exact fun entry member => each entry (List.mem_reverse.mp member)
  · exact inlineTableEnd_proper start [] (List.forall_mem_nil _) span

end

theorem value_proper (depth : Nat) : Yields (value depth) Datum.Proper := by
  induction depth with
  | zero => exact yields_fault _
  | succ depth ih =>
      refine yields_after fun first => yields_after fun character => ?_
      split
      · have array : Yields (do
            take 1
            let items ← firmly (arrayRest (value depth))
            return Datum.sequence (some ⟨first, ← offset⟩) items) Datum.Proper := by
          refine yields_after fun _ => ?_
          refine yields_bind (yields_firmly (arrayRest_proper ih)) fun items each => ?_
          exact yields_after fun last => yields_pure (.sequence _ _ each)
        dsimp only
        split
        · exact yields_after fun _ => array
        · exact array
      · have table : Yields (do
            take 1
            let entries ← firmly (inlineTableRest (value depth))
            return Datum.table (some ⟨first, ← offset⟩) entries) Datum.Proper := by
          refine yields_after fun _ => ?_
          refine yields_bind (yields_firmly (inlineTableRest_proper ih none)) fun entries proper => ?_
          refine yields_after fun last => yields_pure ?_
          cases proper with
          | table span entries distinct each => exact .table _ _ distinct each
        dsimp only
        split
        · exact yields_after fun _ => table
        · exact table
      · refine yields_bind scalar_given fun read given => ?_
        exact yields_after fun last => yields_pure (.scalar _ _ given)

variable {assembly : Assembly}

theorem keyLine_sound (sound : assembly.Sound) : Yields (keyLine assembly) Assembly.Sound := by
  refine yields_after fun start => yields_after fun path => yields_after fun _ => ?_
  refine yields_after fun _ => yields_bind (value_proper depthLimit) fun read proper => ?_
  exact yields_after fun _ => yields_added _ _ (Assembly.addEntry_sound sound _ _ proper)

theorem header_sound (sound : assembly.Sound) : Yields (header assembly) Assembly.Sound := by
  refine yields_after fun start => yields_after fun rest => ?_
  split
  · exact yields_fault _
  · dsimp only
    generalize (if rest[1]? == some '[' then 2 else 1) = brackets
    refine yields_after fun _ => yields_after fun path => yields_after fun behind => ?_
    have opens : Yields (do
        take brackets
        let span : Span := ⟨start.offset, ← offset⟩
        lineEnd (headerLabel ++ noLineEnd)
        let whole := path.1 ++ [path.2]
        added start headerLabel <|
          if brackets == 2 then assembly.openArray whole span else assembly.openTable whole span)
        Assembly.Sound := by
      refine yields_after fun _ => yields_after fun last => yields_after fun _ => ?_
      refine yields_added _ _ ?_
      split
      · exact Assembly.openArray_sound sound _ _
      · exact Assembly.openTable_sound sound _ _
    split
    · exact yields_after fun _ => opens
    · exact opens

theorem lines_sound (count : Nat) (sound : assembly.Sound) :
    Yields (lines count assembly) Assembly.Sound := by
  induction count generalizing assembly with
  | zero => exact yields_pure sound
  | succ count ih =>
      refine yields_after fun _ => yields_after fun rest => ?_
      split
      · exact yields_pure sound
      · exact yields_after fun _ => ih sound
      · exact yields_bind (header_sound sound) fun next held => ih held
      · dsimp only
        split
        · exact yields_after fun _ => ih sound
        · split
          · exact yields_fault _
          · exact yields_bind (keyLine_sound sound) fun next held => ih held

/-- What a text is read as is a table in which, as in all tables below, each name stands once. -/
theorem parse_proper (text : String) (datum : Datum) (read : parse text = .ok datum) :
    datum.Proper ∧ ∃ span entries, datum = .table span entries := by
  have whole : Yields document fun datum =>
      datum.Proper ∧ ∃ span entries, datum = .table span entries := by
    have lines : Yields (do
        let assembly ← lines ((← ahead).length + 1) {}
        added (← get) "" assembly.finish) fun datum =>
          datum.Proper ∧ ∃ span entries, datum = .table span entries := by
      refine yields_after fun rest => yields_bind (lines_sound _ Assembly.start_sound) ?_
      intro assembly sound
      exact yields_after fun input => yields_added _ _ (Assembly.finish_proper sound)
    refine yields_after fun first => ?_
    split
    · exact yields_after fun _ => lines
    · exact lines
  unfold parse at read
  split at read
  · rename_i datum' after done
    rw [← Except.ok.inj read]
    exact whole _ _ done
  · exact nomatch read

end UiContract.Toml
