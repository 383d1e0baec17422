import Mathlib.Data.List.Forall2
import UiContract.Proofs.JsonReading

/-!
Documents that are read back. A written document is a text that the reading of its type takes as a
whole, wherever the document stands; an array or object is read part by part, and a value that nobody
asks for is passed over.
-/
namespace UiContract.Json

section Layout

def line (level : Nat) : List Char := '\n' :: List.replicate (2 * level) ' '

def following (level : Nat) (parts : List (List Char)) : List Char :=
  parts.flatMap fun part => ',' :: (line level ++ part)

def body (level : Nat) : List (List Char) → List Char
  | [] => []
  | first :: rest => line (level + 1) ++ (first ++ (following (level + 1) rest ++ line level))

theorem lineAt_toList (level : Nat) : (lineAt level).toList = line level := by
  simp [lineAt, line]

theorem line_blank (level : Nat) : ∀ character ∈ line level, isBlank character = true := by
  intro character member
  rcases List.mem_cons.mp member with rfl | inside
  · rfl
  · rw [List.eq_of_mem_replicate inside]
    rfl

theorem line_ends (level : Nat) (after : List Char) : Ends (line level ++ after) := by
  intro character first
  right
  exact (Option.some.inj first).symm

theorem ends_following (level close : Nat) (parts : List (List Char)) (after : List Char) :
    Ends (following level parts ++ (line close ++ after)) := by
  cases parts with
  | nil => exact line_ends close after
  | cons part rest =>
      intro character first
      left
      exact (Option.some.inj first).symm

theorem join_toList (level : Nat) (first : String) (rest : List String) :
    (Text.join ("," ++ lineAt level) (first :: rest)).toList =
      first.toList ++ following level (rest.map String.toList) := by
  induction rest generalizing first with
  | nil => simp [Text.join, following]
  | cons second rest ih =>
      rw [Text.join, String.toList_append, String.toList_append, String.toList_append, ih second,
        lineAt_toList]
      · simp [following]
      · simp

theorem bracketed_toList (opening closing : String) (level : Nat) (parts : List String) :
    (bracketed opening closing level parts).toList =
      opening.toList ++ (body level (parts.map String.toList) ++ closing.toList) := by
  cases parts with
  | nil => simp [bracketed, body]
  | cons first rest =>
      unfold bracketed
      rw [if_neg (by simp)]
      simp only [String.toList_append, lineAt_toList, join_toList, List.map_cons, body,
        List.append_assoc]

def entryText (level : Nat) (entry : String × Document) : List Char :=
  '"' :: (inside entry.1.toList ++ '"' :: ':' :: ' ' :: (entry.2.write level).toList)

theorem write_array (level : Nat) (items : List Document) :
    ((Document.array items).write level).toList =
      '[' :: (body level (items.map fun item => (item.write (level + 1)).toList) ++ [']']) := by
  have parts : Document.writeItems (level + 1) items = items.map (Document.write (level + 1)) := by
    induction items with
    | nil => rfl
    | cons item rest ih => rw [Document.writeItems, ih, List.map_cons]
  rw [Document.write, bracketed_toList, parts, List.map_map]
  rfl

theorem write_object (level : Nat) (entries : List (String × Document)) :
    ((Document.object entries).write level).toList =
      '{' :: (body level (entries.map (entryText (level + 1))) ++ ['}']) := by
  have parts : (Document.writeEntries (level + 1) entries).map String.toList =
      entries.map (entryText (level + 1)) := by
    induction entries with
    | nil => rfl
    | cons entry rest ih =>
        obtain ⟨key, value⟩ := entry
        rw [Document.writeEntries, List.map_cons, ih, List.map_cons, String.toList_append,
          String.toList_append, writtenText_toList, List.cons_append, List.cons_append]
        simp [entryText]
  rw [Document.write, bracketed_toList, parts]
  rfl

theorem length_body (level : Nat) (parts : List (List Char)) :
    parts.length ≤ (body level parts).length := by
  have commas : ∀ rest : List (List Char), rest.length ≤ (following (level + 1) rest).length := by
    intro rest
    induction rest with
    | nil => exact Nat.le_refl 0
    | cons part rest ih =>
        unfold following at ih ⊢
        rw [List.flatMap_cons, List.length_append, List.length_cons, List.length_cons]
        omega
  cases parts with
  | nil => exact Nat.le_refl 0
  | cons first rest =>
      have more := commas rest
      simp only [body, line, List.length_append, List.length_cons]
      omega

theorem isBlank_digit {digit : Char} (isDigit : digit.isDigit = true) : isBlank digit = false := by
  cases blank : isBlank digit with
  | false => rfl
  | true =>
      unfold isBlank at blank
      simp only [Bool.or_eq_true, beq_iff_eq] at blank
      rcases blank with ((rfl | rfl) | rfl) | rfl <;> contradiction

theorem write_starts (document : Document) (level : Nat) : ∃ first rest,
    (document.write level).toList = first :: rest ∧ isBlank first = false ∧ first ≠ ']' := by
  cases document with
  | null => exact ⟨'n', "ull".toList, by rw [Document.write]; rfl, rfl, by decide⟩
  | boolean value =>
      rw [Document.write]
      cases value with
      | false => exact ⟨'f', "alse".toList, rfl, rfl, by decide⟩
      | true => exact ⟨'t', "rue".toList, rfl, rfl, by decide⟩
  | natural value =>
      obtain ⟨digit, rest, written, isDigit⟩ := head_toString value
      refine ⟨digit, rest, written, isBlank_digit isDigit, ?_⟩
      rintro rfl
      contradiction
  | text value => exact ⟨'"', _, writtenText_toList value, rfl, by decide⟩
  | array items => exact ⟨'[', _, write_array level items, rfl, by decide⟩
  | object entries => exact ⟨'{', _, write_object level entries, rfl, by decide⟩

end Layout

section Parts

variable {α : Type} {depth : Nat} {after : List Char}

def takeParts (more : Bool → Reading Bool) (part : α → Reading α) : Nat → Bool → α → Reading α
  | 0, _, read => return read
  | count + 1, first, read => do
      if ← more first then takeParts more part count false (← part read) else return read

theorem overItems_eq (item : α → Reading α) (count : Nat) (first : Bool) (read : α) :
    overItems item count first read = takeParts moreItems item count first read := by
  induction count generalizing first read with
  | zero => rfl
  | succ count ih =>
      unfold overItems takeParts
      simp only [ih]

theorem overEntries_eq (entry : α → Reading α) (count : Nat) (first : Bool) (read : α) :
    overEntries entry count first read = takeParts moreEntries entry count first read := by
  induction count generalizing first read with
  | zero => rfl
  | succ count ih =>
      unfold overEntries takeParts
      simp only [ih]

/-- How parts are told apart: by commas between them and a bracket behind the last one. Every part
begins as parts of its kind do. -/
structure Separates (more : Bool → Reading Bool) (depth : Nat) (closing : Char)
    (begins : Char → Prop) : Prop where
  first : ∀ blanks character rest, (∀ blank ∈ blanks, isBlank blank = true) → begins character →
    Gives (more true) depth (blanks ++ character :: rest) true (character :: rest)
  next : ∀ blanks character rest, (∀ blank ∈ blanks, isBlank blank = true) → begins character →
    Gives (more false) depth (',' :: (blanks ++ character :: rest)) true (character :: rest)
  last : ∀ first blanks rest, (∀ blank ∈ blanks, isBlank blank = true) →
    Gives (more first) depth (blanks ++ closing :: rest) false (closing :: rest)

inductive Runs (part : α → Reading α) (depth : Nat) (begins : Char → Prop) :
    List (List Char) → α → α → Prop where
  | nil (state : α) : Runs part depth begins [] state state
  | cons (text : List Char) (rest : List (List Char)) (state next last : α)
      (starts : ∃ character others, text = character :: others ∧ begins character)
      (read : ∀ after, Ends after → Gives (part state) depth (text ++ after) next after)
      (others : Runs part depth begins rest next last) :
      Runs part depth begins (text :: rest) state last

variable {more : Bool → Reading Bool} {closing : Char} {begins : Char → Prop}
  {part : α → Reading α}

theorem gives_takeParts_following (separates : Separates more depth closing begins) (level : Nat)
    (parts : List (List Char)) (state last : α) (runs : Runs part depth begins parts state last)
    (count : Nat) (enough : parts.length < count) (close : Nat) :
    Gives (takeParts more part count false state) depth
      (following level parts ++ (line close ++ closing :: after)) last (closing :: after) := by
  induction runs generalizing count with
  | nil state =>
      obtain ⟨fewer, rfl⟩ := Nat.exists_eq_succ_of_ne_zero (Nat.ne_of_gt enough)
      refine gives_bind (separates.last false (line close) after (line_blank close)) ?_
      exact gives_pure _
  | cons text rest state next last starts read others ih =>
      rw [List.length_cons] at enough
      obtain ⟨fewer, rfl⟩ := Nat.exists_eq_succ_of_ne_zero (Nat.ne_of_gt (Nat.zero_lt_of_lt enough))
      -- One count goes to each part, and the last one to the bracket.
      have tail := ih fewer (by omega)
      obtain ⟨character, letters, rfl, begin⟩ := starts
      have behind := ends_following level close rest (closing :: after)
      have shape : following level ((character :: letters) :: rest) ++
            (line close ++ closing :: after) =
          ',' :: (line level ++ character :: (letters ++
            (following level rest ++ (line close ++ closing :: after)))) := by
        simp [following]
      rw [shape]
      refine gives_bind (separates.next (line level) character _ (line_blank level) begin) ?_
      rw [if_pos rfl]
      exact gives_bind (read _ behind) tail

/-- All parts between the brackets are taken, and the closing bracket is met. -/
theorem gives_takeParts (separates : Separates more depth closing begins) (level : Nat)
    (parts : List (List Char)) (state last : α) (runs : Runs part depth begins parts state last)
    (count : Nat) (enough : parts.length < count) :
    Gives (takeParts more part count true state) depth (body level parts ++ closing :: after) last
      (closing :: after) := by
  obtain ⟨fewer, rfl⟩ := Nat.exists_eq_succ_of_ne_zero (Nat.ne_of_gt (Nat.zero_lt_of_lt enough))
  cases runs with
  | nil state => exact gives_bind (separates.last true [] after nofun) (gives_pure _)
  | cons text rest state next last starts read others =>
      rw [List.length_cons] at enough
      obtain ⟨character, letters, rfl, begin⟩ := starts
      have behind := ends_following (level + 1) level rest (closing :: after)
      have shape : body level ((character :: letters) :: rest) ++ closing :: after =
          line (level + 1) ++ character :: (letters ++
            (following (level + 1) rest ++ (line level ++ closing :: after))) := by
        simp [body]
      rw [shape]
      refine gives_bind (separates.first (line (level + 1)) character _ (line_blank _) begin) ?_
      rw [if_pos rfl]
      refine gives_bind (read _ behind) ?_
      exact gives_takeParts_following separates (level + 1) rest next last others fewer (by omega) level

theorem moreItems_separates : Separates moreItems depth ']'
    (fun character => isBlank character = false ∧ character ≠ ']') where
  first := by
    intro blanks character rest blank begin
    refine gives_bind (gives_shown blanks blank character begin.1) ?_
    split
    · contradiction
    · rename_i same
      exact absurd (Option.some.inj same) begin.2
    · rw [if_pos rfl]
      exact gives_pure _
  next := by
    intro blanks character rest blank begin
    refine gives_bind (gives_here ',' rfl) ?_
    refine gives_bind (gives_step ',') ?_
    refine gives_bind (gives_shown blanks blank character begin.1) ?_
    split
    · rename_i same
      exact absurd (Option.some.inj same) begin.2
    · exact gives_pure _
    · contradiction
  last := by
    intro first blanks rest blank
    exact gives_bind (gives_shown blanks blank ']' rfl) (gives_pure _)

theorem moreEntries_separates : Separates moreEntries depth '}' (fun character => character = '"') where
  first := by
    rintro blanks character rest blank rfl
    refine gives_bind (gives_shown blanks blank '"' rfl) ?_
    refine gives_bind (gives_here '"' rfl) ?_
    exact gives_pure _
  next := by
    rintro blanks character rest blank rfl
    refine gives_bind (gives_here ',' rfl) ?_
    refine gives_bind (gives_step ',') ?_
    refine gives_bind (gives_shown blanks blank '"' rfl) ?_
    exact gives_pure _
  last := by
    intro first blanks rest blank
    exact gives_bind (gives_shown blanks blank '}' rfl) (gives_pure _)

end Parts

def Written {α : Type} (reading : Reading α) (depth : Nat) (document : Document) (value : α) : Prop :=
  ∀ level blanks after, (∀ blank ∈ blanks, isBlank blank = true) → Ends after →
    Gives reading depth (blanks ++ ((document.write level).toList ++ after)) value after

section Values

variable {α β : Type} {depth : Nat}

theorem Written.map {reading : Reading α} {document : Document} {value : α}
    (written : Written reading depth document value) (change : α → β) :
    Written (reading >>= fun read => pure (change read)) depth document (change value) :=
  fun level blanks after blank ends => gives_map change (written level blanks after blank ends)

theorem gives_stringOf (expected value : String) (blanks after : List Char)
    (blank : ∀ blank ∈ blanks, isBlank blank = true) :
    Gives (stringOf expected) depth (blanks ++ '"' :: (inside value.toList ++ '"' :: after)) value
      after := by
  refine gives_bind (gives_shown blanks blank '"' rfl) ?_
  exact gives_bind (gives_step '"') (gives_stringRest value)

theorem write_text (level : Nat) (value : String) (after : List Char) :
    ((Document.text value).write level).toList ++ after =
      '"' :: (inside value.toList ++ '"' :: after) := by
  rw [Document.write, writtenText_toList]
  simp

theorem written_text (value : String) : Written text depth (.text value) value := by
  intro level blanks after blank ends
  rw [write_text]
  exact gives_stringOf _ value blanks after blank

theorem written_variant (choices : List (String × α)) (name : String) (value : α)
    (known : choices.find? (fun entry => entry.1 == name) = some (name, value)) :
    Written (variant choices) depth (.text name) value := by
  intro level blanks after blank ends
  rw [write_text]
  refine gives_bind (gives_shown blanks blank '"' rfl) ?_
  apply gives_settled
  refine gives_bind (gives_stringOf _ name [] after nofun) ?_
  unfold choice
  rw [known]
  exact gives_pure _

theorem written_boolean (value : Bool) : Written boolean depth (.boolean value) value := by
  intro level blanks after blank ends
  rw [Document.write]
  cases value with
  | false =>
      refine gives_bind (gives_shown blanks blank 'f' rfl) ?_
      exact gives_bind (gives_word "false".toList) (gives_pure _)
  | true =>
      refine gives_bind (gives_shown blanks blank 't' rfl) ?_
      exact gives_bind (gives_word "true".toList) (gives_pure _)

theorem written_natural (limit : Nat) (expected : String) (value : Nat) (small : value < limit)
    (wide : limit ≤ UInt64.size) : Written (natural limit expected) depth (.natural value) value := by
  intro level blanks after blank ends
  rw [Document.write]
  have read : Gives number depth ((toString value).toList ++ after) (.natural value) after :=
    gives_number value (by omega) ends
  obtain ⟨digit, rest, written, isDigit⟩ := head_toString value
  rw [written, List.cons_append] at read ⊢
  refine gives_bind (gives_shown blanks blank digit (isBlank_digit isDigit)) ?_
  dsimp only
  rw [if_pos (by simp [isDigit])]
  apply gives_settled
  refine gives_bind read ?_
  dsimp only
  rw [if_pos small]
  exact gives_pure _

theorem written_optional {reading : Reading α} {document : Document} {value : α}
    (written : Written reading depth document value)
    (some_ : ∀ level, ∃ first rest, (document.write level).toList = first :: rest ∧
      isBlank first = false ∧ first ≠ 'n') :
    Written (optional reading) depth document (some value) := by
  intro level blanks after blank ends
  obtain ⟨first, rest, started, shown, other⟩ := some_ level
  have read := written level [] after nofun ends
  rw [List.nil_append, started, List.cons_append] at read
  rw [started, List.cons_append]
  refine gives_bind (gives_shown blanks blank first shown) ?_
  split
  · rename_i same
    exact absurd (Option.some.inj same) other
  · contradiction
  · exact gives_map some read

theorem written_optionalText (value : String) :
    Written (optional text) depth (.text value) (some value) := by
  apply written_optional (written_text value)
  intro level
  rw [Document.write, writtenText_toList]
  exact ⟨'"', _, rfl, rfl, by decide⟩

theorem written_optionalNatural (limit : Nat) (expected : String) (value : Nat) (small : value < limit)
    (wide : limit ≤ UInt64.size) :
    Written (optional (natural limit expected)) depth (.natural value) (some value) := by
  apply written_optional (written_natural limit expected value small wide)
  intro level
  obtain ⟨digit, rest, written, isDigit⟩ := head_toString value
  refine ⟨digit, rest, written, isBlank_digit isDigit, ?_⟩
  rintro rfl
  contradiction

theorem gives_arrayOf {reading : Reading α} {value : α} (text after : List Char)
    (read : Gives reading (depth + 1) (text ++ ']' :: after) value (']' :: after)) :
    Gives (arrayOf reading) (depth + 2) ('[' :: (text ++ ']' :: after)) value after := by
  apply gives_nested
  refine gives_bind (gives_step '[') ?_
  apply gives_closedBy read
  exact gives_bind (gives_here ']' rfl) (gives_step ']')

theorem gives_objectOf {reading : Reading α} {value : α} (text after : List Char)
    (read : Gives reading (depth + 1) (text ++ '}' :: after) value ('}' :: after)) :
    Gives (objectOf reading) (depth + 2) ('{' :: (text ++ '}' :: after)) value after := by
  apply gives_nested
  refine gives_bind (gives_step '{') ?_
  apply gives_closedBy read
  exact gives_bind (gives_here '}' rfl) (gives_step '}')

theorem runs_items {item : Reading α} (level : Nat) (items : List Document) (values read : List α)
    (each : List.Forall₂ (Written item depth) items values) :
    Runs (fun read => do return (← item) :: read) depth
      (fun character => isBlank character = false ∧ character ≠ ']')
      (items.map fun document => (document.write level).toList) read (values.reverse ++ read) := by
  induction each generalizing read with
  | nil => exact .nil read
  | cons first others ih =>
      rename_i document value items values
      rw [List.map_cons, List.reverse_cons, List.append_assoc, List.singleton_append]
      obtain ⟨character, letters, started, begins⟩ := write_starts document level
      refine .cons _ _ _ (value :: read) _ ⟨character, letters, started, begins⟩ ?_ (ih _)
      intro after ends
      exact gives_map (· :: read) (first level [] after nofun ends)

theorem written_list {item : Reading α} (items : List Document) (values : List α)
    (each : List.Forall₂ (Written item (depth + 1)) items values) :
    Written (list item) (depth + 2) (.array items) values := by
  intro level blanks after blank ends
  have runs := runs_items (level + 1) items values [] each
  rw [write_array, List.cons_append, List.append_assoc, List.singleton_append]
  refine gives_bind (gives_shown blanks blank '[' rfl) ?_
  apply gives_settled
  apply gives_arrayOf
  refine gives_bind gives_remaining ?_
  rw [overItems_eq]
  refine gives_bind (gives_takeParts moreItems_separates level _ _ _ runs _ ?_) ?_
  · have short := length_body level (items.map fun item => (item.write (level + 1)).toList)
    rw [List.length_append]
    omega
  · rw [List.append_nil, List.reverse_reverse]
    exact gives_pure _

def alone (value : α) (behind : Option Char) : Reading α :=
  match behind with
  | some _ => faultAhead "trailing characters"
  | none => return value

theorem decode_pretty {reading : Reading α} (document : Document) (value : α)
    (written : Written reading 128 document value) (text : String) (tail : List Char)
    (shape : text.toList = document.pretty.toList ++ tail)
    (blank : ∀ character ∈ tail, isBlank character = true) (ends : Ends tail) :
    decode reading text = .ok value := by
  have whole : Gives (do
      let value ← reading
      alone value (← upcoming)) 128 text.toList value [] := by
    rw [shape]
    refine gives_bind (written 0 [] tail (List.forall_mem_nil _) ends) ?_
    have none : Gives upcoming 128 (tail ++ []) none [] := by
      apply gives_upcoming tail blank
      intro character first
      contradiction
    rw [List.append_nil] at none
    exact gives_bind none (gives_pure _)
  obtain ⟨behind, read⟩ := whole {}
  have result := congrArg Prod.fst read
  unfold decode
  dsimp only
  split
  · rename_i other done
    rw [Except.ok.inj (done.symm.trans result)]
  · rename_i fault failed
    have same := failed.symm.trans result
    contradiction

end Values

section Skipping

variable {depth : Nat}

def Skips (depth : Nat) (document : Document) : Prop :=
  ∀ level, ∃ steps, steps < 2 * (document.write level).toList.length ∧
    ∀ count around blanks after last, (∀ blank ∈ blanks, isBlank blank = true) → Ends after →
      Gives (skipParts count (.behind around false)) depth after () last →
      Gives (skipParts (count + steps) (.value around)) depth
        (blanks ++ ((document.write level).toList ++ after)) () last

def SkipsPart (depth : Nat) (opening : Char) (part : List Char) : Prop :=
  ∃ steps, steps ≤ 2 * part.length ∧ ∀ count around blanks after last,
    (∀ blank ∈ blanks, isBlank blank = true) → Ends after →
    Gives (skipParts count (.behind (opening :: around) false)) depth after () last →
    Gives (skipParts (count + steps) (.behind (opening :: around) true)) depth
        (blanks ++ (part ++ after)) () last ∧
      Gives (skipParts (count + steps) (.behind (opening :: around) false)) depth
        (',' :: (blanks ++ (part ++ after))) () last

theorem skips_single (document : Document)
    (single : ∀ level count around blanks after last, (∀ blank ∈ blanks, isBlank blank = true) →
      Ends after → Gives (skipParts count (.behind around false)) depth after () last →
      Gives (skipParts (count + 1) (.value around)) depth
        (blanks ++ ((document.write level).toList ++ after)) () last) : Skips depth document := by
  intro level
  refine ⟨1, ?_, single level⟩
  obtain ⟨first, rest, started, -⟩ := write_starts document level
  rw [started, List.length_cons]
  omega

theorem skips_null : Skips depth .null := by
  apply skips_single
  intro level count around blanks after last blank ends more
  rw [Document.write]
  refine gives_bind (gives_shown blanks blank 'n' rfl) ?_
  exact gives_bind (gives_word "null".toList) more

theorem skips_boolean (value : Bool) : Skips depth (.boolean value) := by
  apply skips_single
  intro level count around blanks after last blank ends more
  rw [Document.write]
  cases value with
  | false =>
      refine gives_bind (gives_shown blanks blank 'f' rfl) ?_
      exact gives_bind (gives_word "false".toList) more
  | true =>
      refine gives_bind (gives_shown blanks blank 't' rfl) ?_
      exact gives_bind (gives_word "true".toList) more

theorem skips_text (value : String) : Skips depth (.text value) := by
  apply skips_single
  intro level count around blanks after last blank ends more
  rw [write_text]
  refine gives_bind (gives_shown blanks blank '"' rfl) ?_
  refine gives_bind (gives_step '"') ?_
  refine gives_bind gives_remaining ?_
  refine gives_bind (gives_skipString value.toList _ ?_) more
  have short := length_inside value.toList
  rw [List.length_append]
  omega

theorem skips_natural (value : Nat) : Skips depth (.natural value) := by
  apply skips_single
  intro level count around blanks after last blank ends more
  rw [Document.write]
  have passed : Gives skipNumber depth ((toString value).toList ++ after) () after :=
    gives_skipNumber value ends
  obtain ⟨digit, rest, written, isDigit⟩ := head_toString value
  rw [written, List.cons_append] at passed ⊢
  have apart : ∀ other : Char, other.isDigit = false → (digit == other) = false := by
    intro other unlike
    apply beq_eq_false_iff_ne.mpr
    rintro rfl
    rw [isDigit] at unlike
    contradiction
  unfold skipParts
  refine gives_bind (gives_shown blanks blank digit (isBlank_digit isDigit)) ?_
  dsimp only
  rw [apart '[' rfl, apart '{' rfl, apart 'n' rfl, apart 't' rfl, apart 'f' rfl, apart '"' rfl]
  rw [if_neg (by decide), if_neg (by decide), if_neg (by decide), if_neg (by decide),
    if_neg (by decide), if_pos (by simp [isDigit])]
  exact gives_bind passed more

theorem skipsPart_item (document : Document) (skips : Skips depth document) (level : Nat) :
    SkipsPart depth '[' (document.write level).toList := by
  obtain ⟨steps, few, passed⟩ := skips level
  obtain ⟨first, rest, started, shown, other⟩ := write_starts document level
  refine ⟨steps + 1, by omega, ?_⟩
  intro count around blanks after last blank ends more
  -- A comma stands in front of every item but the first one.
  constructor
  · have inner := passed count ('[' :: around) [] after last nofun ends more
    rw [List.nil_append, started, List.cons_append] at inner
    rw [started, List.cons_append, ← Nat.add_assoc]
    refine gives_bind (gives_shown blanks blank first shown) ?_
    dsimp only
    rw [if_neg (by simp [other])]
    exact inner
  · have inner := passed count ('[' :: around) blanks after last blank ends more
    rw [← Nat.add_assoc]
    refine gives_bind (gives_here ',' rfl) ?_
    exact gives_bind (gives_step ',') inner

theorem gives_key (name : String) (after : List Char) :
    Gives key depth ('"' :: (inside name.toList ++ '"' :: after)) name after :=
  gives_bind (gives_step '"') (gives_stringRest name)

theorem gives_colon (after : List Char) : Gives colon depth (':' :: after) () after :=
  gives_bind (gives_here ':' rfl) (gives_step ':')

theorem gives_skipKey (name : String) (blanks after : List Char)
    (blank : ∀ blank ∈ blanks, isBlank blank = true) :
    Gives skipKey depth (blanks ++ '"' :: (inside name.toList ++ '"' :: ':' :: after)) () after := by
  refine gives_bind (gives_shown blanks blank '"' rfl) ?_
  refine gives_bind (gives_step '"') ?_
  refine gives_bind gives_remaining ?_
  refine gives_bind (gives_skipString name.toList _ ?_) (gives_colon after)
  have short := length_inside name.toList
  rw [List.length_append]
  omega

theorem entryText_append (level : Nat) (name : String) (document : Document) (after : List Char) :
    entryText level (name, document) ++ after = '"' :: (inside name.toList ++
      '"' :: ':' :: ([' '] ++ ((document.write level).toList ++ after))) := by
  simp [entryText]

theorem skipsPart_entry (name : String) (document : Document) (skips : Skips depth document)
    (level : Nat) : SkipsPart depth '{' (entryText level (name, document)) := by
  obtain ⟨steps, few, passed⟩ := skips level
  refine ⟨steps + 1, ?_, ?_⟩
  · simp only [entryText, List.length_cons, List.length_append]
    omega
  · intro count around blanks after last blank ends more
    have inner := passed count ('{' :: around) [' '] after last (by simp [isBlank]) ends more
    rw [entryText_append, ← Nat.add_assoc]
    constructor
    · refine gives_bind (gives_shown blanks blank '"' rfl) ?_
      refine gives_bind (gives_skipKey name [] _ nofun) ?_
      exact inner
    · refine gives_bind (gives_here ',' rfl) ?_
      refine gives_bind (gives_step ',') ?_
      exact gives_bind (gives_skipKey name blanks _ blank) inner

def Brackets (opening closing : Char) : Prop :=
  opening = '[' ∧ closing = ']' ∨ opening = '{' ∧ closing = '}'

variable {opening closing : Char}

theorem gives_skipClosing (brackets : Brackets opening closing) (first : Bool) (count : Nat)
    (around blanks after last : List Char) (blank : ∀ blank ∈ blanks, isBlank blank = true)
    (more : Gives (skipParts count (.behind around false)) depth after () last) :
    Gives (skipParts (count + 1) (.behind (opening :: around) first)) depth
      (blanks ++ closing :: after) () last := by
  obtain ⟨rfl, rfl⟩ | ⟨rfl, rfl⟩ := brackets
  · refine gives_bind (gives_shown blanks blank ']' rfl) ?_
    exact gives_bind (gives_step ']') more
  · refine gives_bind (gives_shown blanks blank '}' rfl) ?_
    exact gives_bind (gives_step '}') more

theorem skips_following (brackets : Brackets opening closing) (level : Nat)
    (parts : List (List Char)) (each : ∀ part ∈ parts, SkipsPart depth opening part) :
    ∃ steps, steps ≤ 2 * (following level parts).length ∧ ∀ count around close after last,
      Gives (skipParts count (.behind around false)) depth after () last →
      Gives (skipParts (count + 1 + steps) (.behind (opening :: around) false)) depth
        (following level parts ++ (line close ++ closing :: after)) () last := by
  induction parts with
  | nil =>
      refine ⟨0, Nat.zero_le _, ?_⟩
      intro count around close after last more
      exact gives_skipClosing brackets false count around (line close) after last (line_blank close) more
  | cons part rest ih =>
      obtain ⟨steps, few, passed⟩ := each part List.mem_cons_self
      obtain ⟨others, fewer, skipped⟩ := ih fun other member =>
        each other (List.mem_cons_of_mem part member)
      refine ⟨others + steps, ?_, ?_⟩
      · unfold following at fewer ⊢
        simp only [List.flatMap_cons, List.length_append, List.length_cons]
        omega
      · intro count around close after last more
        have shape : following level (part :: rest) ++ (line close ++ closing :: after) =
            ',' :: (line level ++ (part ++ (following level rest ++ (line close ++ closing :: after)))) := by
          simp [following]
        rw [shape, ← Nat.add_assoc]
        exact (passed _ around (line level) _ last (line_blank level)
          (ends_following level close rest _) (skipped count around close after last more)).2

theorem skips_body (brackets : Brackets opening closing) (level : Nat) (parts : List (List Char))
    (each : ∀ part ∈ parts, SkipsPart depth opening part) :
    ∃ steps, steps ≤ 2 * (body level parts).length ∧ ∀ count around after last,
      Gives (skipParts count (.behind around false)) depth after () last →
      Gives (skipParts (count + 1 + steps) (.behind (opening :: around) true)) depth
        (body level parts ++ closing :: after) () last := by
  cases parts with
  | nil =>
      refine ⟨0, Nat.zero_le _, ?_⟩
      intro count around after last more
      exact gives_skipClosing brackets true count around [] after last nofun more
  | cons part rest =>
      obtain ⟨steps, few, passed⟩ := each part List.mem_cons_self
      obtain ⟨others, fewer, skipped⟩ := skips_following brackets (level + 1) rest fun other member =>
        each other (List.mem_cons_of_mem part member)
      refine ⟨others + steps, ?_, ?_⟩
      · simp only [body, List.length_append]
        omega
      · intro count around after last more
        have shape : body level (part :: rest) ++ closing :: after = line (level + 1) ++
            (part ++ (following (level + 1) rest ++ (line level ++ closing :: after))) := by
          simp [body]
        rw [shape, ← Nat.add_assoc]
        exact (passed _ around (line (level + 1)) _ last (line_blank _)
          (ends_following (level + 1) level rest _) (skipped count around level after last more)).1

theorem skips_bracketed (brackets : Brackets opening closing) (document : Document)
    (parts : Nat → List (List Char))
    (written : ∀ level, (document.write level).toList =
      opening :: (body level (parts level) ++ [closing]))
    (each : ∀ level, ∀ part ∈ parts level, SkipsPart depth opening part) : Skips depth document := by
  intro level
  obtain ⟨steps, few, passed⟩ := skips_body brackets level (parts level) (each level)
  -- Each bracket takes a step, and so they take no more than twice their length.
  refine ⟨1 + steps + 1, ?_, ?_⟩
  · rw [written, List.length_cons, List.length_append, List.length_singleton]
    omega
  · intro count around blanks after last blank ends more
    rw [written, List.cons_append, List.append_assoc, List.singleton_append]
    have inner := passed count around after last more
    have shown : isBlank opening = false ∧ (opening == '[' || opening == '{') = true := by
      obtain ⟨rfl, -⟩ | ⟨rfl, -⟩ := brackets <;> decide
    rw [← Nat.add_assoc, ← Nat.add_assoc]
    refine gives_bind (gives_shown blanks blank opening shown.1) ?_
    dsimp only
    rw [if_pos shown.2]
    exact gives_bind (gives_step opening) inner

mutual

theorem skips_document : (document : Document) → Skips depth document
  | .null => skips_null
  | .boolean value => skips_boolean value
  | .natural value => skips_natural value
  | .text value => skips_text value
  | .array items => by
      apply skips_bracketed (.inl ⟨rfl, rfl⟩) _ _ fun level => write_array level items
      intro level part member
      obtain ⟨item, inside, rfl⟩ := List.mem_map.mp member
      exact skipsPart_item item (skips_items items item inside) (level + 1)
  | .object entries => by
      apply skips_bracketed (.inr ⟨rfl, rfl⟩) _ _ fun level => write_object level entries
      intro level part member
      obtain ⟨entry, inside, rfl⟩ := List.mem_map.mp member
      exact skipsPart_entry entry.1 entry.2 (skips_entries entries entry inside) (level + 1)

theorem skips_items : (items : List Document) → ∀ item ∈ items, Skips depth item
  | [] => nofun
  | item :: rest => List.forall_mem_cons.mpr ⟨skips_document item, skips_items rest⟩

theorem skips_entries :
    (entries : List (String × Document)) → ∀ entry ∈ entries, Skips depth entry.2
  | [] => nofun
  | (_, value) :: rest => List.forall_mem_cons.mpr ⟨skips_document value, skips_entries rest⟩

end

theorem written_skipValue (document : Document) : Written skipValue depth document () := by
  intro level blanks after blank ends
  have skips : Skips depth document := skips_document document
  obtain ⟨steps, few, passed⟩ := skips level
  refine gives_bind gives_remaining ?_
  obtain ⟨count, enough⟩ : ∃ count,
      2 * ((blanks ++ ((document.write level).toList ++ after)).length + 1) = count + 1 + steps := by
    refine ⟨2 * ((blanks ++ ((document.write level).toList ++ after)).length + 1) - 1 - steps, ?_⟩
    simp only [List.length_append]
    omega
  rw [enough]
  exact passed (count + 1) [] blanks after after blank ends (gives_pure _)

end Skipping

section Tables

variable {Draft α : Type} {depth : Nat} (record : Record Draft α)

/-- What the entries of an object make of a draft: each is read into its field, and those that no field
asks for change nothing. -/
inductive Fills (depth : Nat) : List (String × Document) → Draft → Draft → Prop where
  | nil (draft : Draft) : Fills depth [] draft draft
  | field (name : String) (document : Document) (rest : List (String × Document))
      (draft next last : Draft) (field : Field Draft)
      (found : record.fields.find? (fun field => field.name == name) = some field)
      (fresh : field.known draft = false) (read : Written (field.read draft) depth document next)
      (more : Fills depth rest next last) : Fills depth ((name, document) :: rest) draft last
  | other (name : String) (document : Document) (rest : List (String × Document))
      (draft last : Draft) (opened : record.closed = false)
      (unknown : record.fields.find? (fun field => field.name == name) = none)
      (more : Fills depth rest draft last) : Fills depth ((name, document) :: rest) draft last

variable {record} in
theorem Fills.put {β : Type} {reading : Reading β} {name : String} {document : Document}
    {rest : List (String × Document)} {draft last : Draft} {field : Field Draft} {put : β → Draft}
    {value : β} (found : record.fields.find? (fun field => field.name == name) = some field)
    (fresh : field.known draft = false)
    (reads : field.read draft = reading >>= fun value => pure (put value))
    (written : Written reading depth document value) (more : Fills record depth rest (put value) last) :
    Fills record depth ((name, document) :: rest) draft last := by
  refine .field name document rest draft (put value) last field found fresh ?_ more
  rw [reads]
  exact written.map put

variable {record} in
theorem Fills.unknown (opened : record.closed = false) (entries : List (String × Document))
    (unknown : ∀ entry ∈ entries, entry.1 ∉ record.fieldNames) (draft : Draft) :
    Fills record depth entries draft draft := by
  induction entries with
  | nil => exact .nil draft
  | cons entry rest ih =>
      obtain ⟨name, document⟩ := entry
      have absent := unknown (name, document) List.mem_cons_self
      have none : record.fields.find? (fun field => field.name == name) = none := by
        apply List.find?_eq_none.mpr
        intro field member same
        apply absent
        rw [← beq_iff_eq.mp same]
        exact List.mem_map_of_mem member
      exact .other name document rest draft draft opened none
        (ih fun other member => unknown other (List.mem_cons_of_mem _ member))

theorem gives_fieldEntry (level : Nat) (name : String) (document : Document) (draft next : Draft)
    (field : Field Draft) (found : record.fields.find? (fun field => field.name == name) = some field)
    (fresh : field.known draft = false) (read : Written (field.read draft) depth document next)
    (after : List Char) (ends : Ends after) :
    Gives (fieldEntry record draft) depth (entryText level (name, document) ++ after) next after := by
  rw [entryText_append]
  refine gives_bind (gives_key name _) ?_
  rw [found]
  dsimp only
  rw [if_neg (by simp [fresh])]
  exact gives_bind (gives_colon _) (read level [' '] after (by simp [isBlank]) ends)

theorem gives_otherEntry (level : Nat) (name : String) (document : Document) (draft : Draft)
    (opened : record.closed = false)
    (unknown : record.fields.find? (fun field => field.name == name) = none)
    (after : List Char) (ends : Ends after) :
    Gives (fieldEntry record draft) depth (entryText level (name, document) ++ after) draft after := by
  rw [entryText_append]
  refine gives_bind (gives_key name _) ?_
  rw [unknown]
  dsimp only
  rw [if_neg (by simp [opened])]
  refine gives_bind (gives_colon _) ?_
  refine gives_bind (written_skipValue document level [' '] after (by simp [isBlank]) ends) ?_
  exact gives_pure _

theorem runs_entries (level : Nat) (entries : List (String × Document)) (draft last : Draft)
    (fills : Fills record depth entries draft last) :
    Runs (fieldEntry record) depth (fun character => character = '"')
      (entries.map (entryText level)) draft last := by
  induction fills with
  | nil draft => exact .nil draft
  | field name document rest draft next last field found fresh read more ih =>
      refine .cons _ _ draft next last ⟨'"', _, rfl, rfl⟩ ?_ ih
      exact gives_fieldEntry record level name document draft next field found fresh read
  | other name document rest draft last opened unknown more ih =>
      refine .cons _ _ draft draft last ⟨'"', _, rfl, rfl⟩ ?_ ih
      exact gives_otherEntry record level name document draft opened unknown

theorem written_table (entries : List (String × Document)) (draft : Draft) (value : α)
    (fills : Fills record (depth + 1) entries record.blank draft)
    (finished : record.finish draft = .ok value) :
    Written (table record) (depth + 2) (.object entries) value := by
  intro level blanks after blank ends
  have runs := runs_entries record (level + 1) entries record.blank draft fills
  rw [write_object, List.cons_append, List.append_assoc, List.singleton_append]
  refine gives_bind (gives_shown blanks blank '{' rfl) ?_
  apply gives_settled
  apply gives_objectOf
  refine gives_bind gives_remaining ?_
  rw [overEntries_eq]
  refine gives_bind (gives_takeParts moreEntries_separates level _ _ _ runs _ ?_) ?_
  · have short := length_body level (entries.map (entryText (level + 1)))
    rw [List.length_append]
    omega
  · unfold result
    rw [finished]
    exact gives_pure _

end Tables

end UiContract.Json
