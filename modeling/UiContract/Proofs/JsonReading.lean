import UiContract.Json.Printer
import UiContract.Json.Reader

/-!
What readings give. A reading that gives a value takes the text in front of it and stops where the rest
begins, so readings that follow one another are told by what each of them takes. Texts and numbers are
read as they were written.
-/
namespace UiContract.Json

def Gives {α : Type} (reading : Reading α) (depth : Nat) (before : List Char) (value : α)
    (after : List Char) : Prop :=
  ∀ place, ∃ behind, reading.run { rest := before, place, depth } =
    (.ok value, { rest := after, place := behind, depth })

section Steps

variable {α β : Type} {depth : Nat} {before middle after : List Char}

theorem run_bind (reading : Reading α) (more : α → Reading β) (input : Input) :
    (reading >>= more).run input = match reading.run input with
      | (.ok value, after) => (more value).run after
      | (.error fault, after) => (.error fault, after) := by
  show (match reading.run input with
    | (read, after) => ExceptT.bindCont more read after) = _
  cases reading.run input with
  | mk read after => cases read <;> rfl

theorem gives_pure (value : α) : Gives (pure value) depth before value before :=
  fun place => ⟨place, rfl⟩

theorem gives_bind {reading : Reading α} {more : α → Reading β} {value : α} {result : β}
    (first : Gives reading depth before value middle)
    (second : Gives (more value) depth middle result after) :
    Gives (reading >>= more) depth before result after := by
  intro place
  obtain ⟨between, read⟩ := first place
  obtain ⟨behind, done⟩ := second between
  refine ⟨behind, ?_⟩
  rw [run_bind, read]
  exact done

theorem gives_map {reading : Reading α} {value : α} (change : α → β)
    (first : Gives reading depth before value after) :
    Gives (reading >>= fun read => pure (change read)) depth before (change value) after :=
  gives_bind first (gives_pure _)

theorem gives_settled {reading : Reading α} {value : α}
    (first : Gives reading depth before value after) :
    Gives (settled reading) depth before value after := by
  intro place
  obtain ⟨behind, read⟩ := first place
  refine ⟨behind, ?_⟩
  unfold settled
  rw [ExceptT.run_mk, read]

theorem gives_closedBy {reading : Reading α} {ending : Reading Unit} {value : α}
    (first : Gives reading depth before value middle) (second : Gives ending depth middle () after) :
    Gives (closedBy reading ending) depth before value after := by
  intro place
  obtain ⟨between, read⟩ := first place
  obtain ⟨behind, done⟩ := second between
  refine ⟨behind, ?_⟩
  unfold closedBy
  rw [ExceptT.run_mk, read]
  dsimp only
  rw [done]

theorem gives_peek : Gives peek depth before before.head? before :=
  fun place => ⟨place, rfl⟩

theorem gives_step (character : Char) : Gives step depth (character :: after) () after :=
  fun place => ⟨place.behind character, rfl⟩

theorem gives_next (character : Char) :
    Gives next depth (character :: after) (some character) after :=
  gives_bind gives_peek (gives_bind (gives_step character) (gives_pure _))

theorem gives_remaining : Gives remaining depth before (before.length + 1) before :=
  fun place => ⟨place, rfl⟩

theorem gives_nested {reading : Reading α} {value : α}
    (inner : Gives reading (depth + 1) before value after) :
    Gives (nested reading) (depth + 2) before value after := by
  intro place
  obtain ⟨behind, read⟩ := inner place
  refine ⟨behind, ?_⟩
  have deep : ¬ depth + 2 ≤ 1 := by omega
  unfold nested
  rw [run_bind]
  show (if depth + 2 ≤ 1 then _ else _ : Reading α).run { rest := before, place, depth := depth + 2 } = _
  rw [if_neg deep, run_bind]
  show ((reading >>= fun read => _) : Reading α).run { rest := before, place, depth := depth + 1 } = _
  rw [run_bind, read]
  rfl

theorem advance_eq (count : Nat) (input : Input) : ∃ place,
    input.advance count = { input with rest := input.rest.drop count, place } := by
  induction count generalizing input with
  | zero => exact ⟨input.place, rfl⟩
  | succ count ih =>
      obtain ⟨place, led⟩ := ih input.step
      refine ⟨place, ?_⟩
      rw [Input.advance, led]
      unfold Input.step
      cases known : input.rest with
      | nil => simp [known]
      | cons character rest => simp

theorem gives_advance (count : Nat) :
    Gives (modifyThe Input (Input.advance count)) depth before () (before.drop count) := by
  intro place
  obtain ⟨behind, led⟩ := advance_eq count { rest := before, place, depth }
  refine ⟨behind, ?_⟩
  show ((Except.ok (), Input.advance count { rest := before, place, depth }) : Except Fault Unit × Input) = _
  rw [led]

end Steps

section Words

variable {depth : Nat} {after : List Char}

theorem gives_upcoming (blanks : List Char) (blank : ∀ character ∈ blanks, isBlank character = true)
    (shown : ∀ character, after.head? = some character → isBlank character = false) :
    Gives upcoming depth (blanks ++ after) after.head? after := by
  have passed : (blanks ++ after).takeWhile isBlank = blanks := by
    rw [List.takeWhile_append_of_pos blank]
    cases after with
    | nil => simp
    | cons first rest => simp [shown first rfl]
  have moved : Gives (modifyThe Input (Input.advance blanks.length)) depth (blanks ++ after) () after := by
    have led : Gives (modifyThe Input (Input.advance blanks.length)) depth (blanks ++ after) ()
        ((blanks ++ after).drop blanks.length) := gives_advance blanks.length
    rwa [List.drop_left] at led
  suffices skipped : Gives (modifyThe Input fun input =>
      input.advance (input.rest.takeWhile isBlank).length) depth (blanks ++ after) () after from
    gives_bind skipped gives_peek
  intro place
  obtain ⟨behind, led⟩ := moved place
  refine ⟨behind, ?_⟩
  rw [← led]
  show ((Except.ok (), Input.advance ((blanks ++ after).takeWhile isBlank).length _) :
    Except Fault Unit × Input) = _
  rw [passed]
  rfl

theorem gives_shown (blanks : List Char) (blank : ∀ character ∈ blanks, isBlank character = true)
    (character : Char) (shown : isBlank character = false) :
    Gives upcoming depth (blanks ++ character :: after) (some character) (character :: after) := by
  apply gives_upcoming blanks blank
  intro other first
  rw [← Option.some.inj first]
  exact shown

theorem gives_here (character : Char) (shown : isBlank character = false) :
    Gives upcoming depth (character :: after) (some character) (character :: after) :=
  gives_shown [] nofun character shown

theorem gives_word (letters : List Char) : Gives (word letters) depth (letters ++ after) () after := by
  induction letters with
  | nil => exact gives_pure ()
  | cons letter rest ih =>
      rw [List.cons_append]
      refine gives_bind (gives_next letter) ?_
      dsimp only
      rw [if_pos (beq_self_eq_true letter)]
      exact ih

theorem gives_digits (read : List Char) (all : ∀ digit ∈ read, digit.isDigit = true)
    (ends : ∀ character, after.head? = some character → character.isDigit = false) :
    Gives digits depth (read ++ after) read after := by
  have taken : (read ++ after).takeWhile Char.isDigit = read := by
    rw [List.takeWhile_append_of_pos all]
    cases after with
    | nil => simp
    | cons first rest => simp [ends first rfl]
  intro place
  have moved : Gives (modifyThe Input (Input.advance read.length)) depth (read ++ after) ()
      ((read ++ after).drop read.length) := gives_advance read.length
  rw [List.drop_left] at moved
  obtain ⟨behind, led⟩ := moved place
  refine ⟨behind, ?_⟩
  show ((Except.ok ((read ++ after).takeWhile Char.isDigit),
    Input.advance ((read ++ after).takeWhile Char.isDigit).length _) : Except Fault (List Char) × Input) = _
  rw [taken]
  exact congrArg (fun led => (Except.ok read, led.2)) led

def Ends (after : List Char) : Prop :=
  ∀ character, after.head? = some character → character = ',' ∨ character = '\n'

theorem Ends.ne (ends : Ends after) (character : Char) (comma : character ≠ ',')
    (line : character ≠ '\n') : after.head? ≠ some character := by
  intro same
  rcases ends character same with rfl | rfl
  · exact comma rfl
  · exact line rfl

theorem Ends.isDigit (ends : Ends after) (character : Char) (first : after.head? = some character) :
    character.isDigit = false := by
  rcases ends character first with rfl | rfl <;> decide

end Words

section Numbers

variable {depth : Nat} {after : List Char}

theorem digitsValue_toDigits (value : Nat) : digitsValue (Nat.toDigits 10 value) = value :=
  Nat.ofDigitChars_ten_toDigits

theorem head_toDigits (value : Nat) (first : Char) (others : List Char)
    (written : Nat.toDigits 10 value = first :: others) (zero : first = '0') : others = [] := by
  induction value using Nat.strongRecOn generalizing first others with
  | ind value ih =>
      rw [Nat.toDigits_eq_if (by decide)] at written
      by_cases single : value < 10
      · rw [if_pos single] at written
        exact (List.cons.inj written).2.symm
      · rw [if_neg single] at written
        obtain ⟨front, rest, led⟩ := List.exists_cons_of_ne_nil
          (Nat.toDigits_ne_nil (b := 10) (n := value / 10))
        rw [led, List.cons_append] at written
        obtain ⟨rfl, rfl⟩ := List.cons.inj written
        have alone := ih (value / 10) (by omega) front rest led zero
        -- A lone zero would be the number zero, but a tenth of the number is at least one.
        have none := digitsValue_toDigits (value / 10)
        rw [led, alone, zero] at none
        have : value / 10 = 0 := none.symm
        omega

theorem gives_wholeDigits (ending : String) (value : Nat) (ends : Ends after) :
    Gives (wholeDigits ending) depth (Nat.toDigits 10 value ++ after) (Nat.toDigits 10 value)
      after := by
  obtain ⟨first, others, written⟩ := List.exists_cons_of_ne_nil
    (Nat.toDigits_ne_nil (b := 10) (n := value))
  have digit : ∀ character ∈ first :: others, character.isDigit = true := by
    rw [← written]
    intro character member
    exact Nat.isDigit_of_mem_toDigits (by decide) (by decide) member
  rw [written, List.cons_append]
  refine gives_bind (gives_next first) ?_
  by_cases zero : first = '0'
  · have alone := head_toDigits value first others written zero
    subst alone zero
    refine gives_bind gives_peek ?_
    have none : ¬ (([] ++ after : List Char).head?.any Char.isDigit) = true := by
      rw [List.nil_append, Option.any_eq_true]
      rintro ⟨character, shown, isDigit⟩
      rw [ends.isDigit character shown] at isDigit
      exact Bool.false_ne_true isDigit
    rw [if_neg none]
    exact gives_pure _
  · have read : Gives (do return first :: (← digits) : Reading (List Char)) depth (others ++ after)
        (first :: others) after := by
      apply gives_map
      exact gives_digits others (fun other member => digit other (List.mem_cons_of_mem first member))
        ends.isDigit
    split
    · contradiction
    · rename_i same
      exact absurd (Option.some.inj same) zero
    · rename_i other same
      obtain rfl := Option.some.inj same
      rw [if_pos (digit first List.mem_cons_self)]
      exact read

theorem gives_fractionDigits (ending : String) (ends : Ends after) :
    Gives (fractionDigits ending) depth after [] after := by
  refine gives_bind gives_peek ?_
  rw [if_neg (by simpa using ends.ne '.' (by decide) (by decide))]
  exact gives_pure _

theorem gives_exponent (ending : String) (ends : Ends after) :
    Gives (exponent? ending) depth after none after := by
  refine gives_bind gives_peek ?_
  rw [if_neg ?_]
  · exact gives_pure _
  · have small := ends.ne 'e' (by decide) (by decide)
    have great := ends.ne 'E' (by decide) (by decide)
    simp [small, great]

theorem head_toString (value : Nat) :
    ∃ digit rest, (toString value).toList = digit :: rest ∧ digit.isDigit = true := by
  rw [Nat.toString_eq_ofList_toDigits, String.toList_ofList]
  obtain ⟨first, others, written⟩ := List.exists_cons_of_ne_nil
    (Nat.toDigits_ne_nil (b := 10) (n := value))
  refine ⟨first, others, written, ?_⟩
  apply Nat.isDigit_of_mem_toDigits (b := 10) (n := value) (by decide) (by decide)
  rw [written]
  exact List.mem_cons_self

/-- Behind a number nothing else is passed over, so a number that is not looked at goes the same way. -/
theorem no_sign (value : Nat) :
    (((toString value).toList ++ after).head? == some '-') = false := by
  obtain ⟨first, others, written, isDigit⟩ := head_toString value
  rw [written]
  apply beq_eq_false_iff_ne.mpr
  intro same
  rw [Option.some.inj same] at isDigit
  contradiction

theorem gives_number (value : Nat) (small : value < UInt64.size) (ends : Ends after) :
    Gives number depth ((toString value).toList ++ after) (.natural value) after := by
  refine gives_bind gives_peek ?_
  dsimp only
  rw [no_sign, if_neg Bool.false_ne_true, Nat.toString_eq_ofList_toDigits, String.toList_ofList]
  refine gives_bind (gives_wholeDigits endInValue value ends) ?_
  refine gives_bind (gives_fractionDigits endInValue ends) ?_
  refine gives_bind (gives_exponent endInValue ends) ?_
  unfold numberOf
  rw [digitsValue_toDigits]
  dsimp only
  rw [if_pos (by simpa using small)]
  exact gives_pure _

theorem gives_skipNumber (value : Nat) (ends : Ends after) :
    Gives skipNumber depth ((toString value).toList ++ after) () after := by
  refine gives_bind gives_peek ?_
  dsimp only
  rw [no_sign, if_neg Bool.false_ne_true, Nat.toString_eq_ofList_toDigits, String.toList_ofList]
  refine gives_bind (gives_wholeDigits badNumber value ends) ?_
  refine gives_bind (gives_fractionDigits badNumber ends) ?_
  exact gives_bind (gives_exponent badNumber ends) (gives_pure _)

end Numbers

section Strings

variable {depth : Nat} {after rest : List Char}

def signs : List (Char × Char) :=
  [('"', '"'), ('\\', '\\'), ('b', '\x08'), ('f', '\x0c'), ('n', '\n'), ('r', '\r'), ('t', '\t')]

inductive Escaped (character : Char) : List Char → Prop where
  | plain (quote : character ≠ '"') (slash : character ≠ '\\') (shown : 0x20 ≤ character.toNat) :
      Escaped character [character]
  | sign (letter : Char) (listed : (letter, character) ∈ signs) : Escaped character ['\\', letter]
  | code (four : List Char) (length : four.length = 4) (bytes : Text.byteSize four = 4)
      (digits : four.all Text.isHexDigit = true) (control : character.toNat < 0x20)
      (value : Text.digitsValue 16 four = character.toNat) :
      Escaped character ('\\' :: 'u' :: four)

theorem escaped_control (number : Fin 32) :
    (∃ sign ∈ signs, sign.2 = Char.ofNat number ∧
      (writtenChar (Char.ofNat number)).toList = ['\\', sign.1]) ∨
    (writtenChar (Char.ofNat number)).toList =
        '\\' :: 'u' :: (writtenChar (Char.ofNat number)).toList.drop 2 ∧
      ((writtenChar (Char.ofNat number)).toList.drop 2).length = 4 ∧
      Text.byteSize ((writtenChar (Char.ofNat number)).toList.drop 2) = 4 ∧
      ((writtenChar (Char.ofNat number)).toList.drop 2).all Text.isHexDigit = true ∧
      Text.digitsValue 16 ((writtenChar (Char.ofNat number)).toList.drop 2) = number := by
  revert number
  decide

theorem escaped_writtenChar (character : Char) : Escaped character (writtenChar character).toList := by
  by_cases control : character.toNat < 0x20
  · have whole := escaped_control ⟨character.toNat, control⟩
    rw [Char.ofNat_toNat] at whole
    rcases whole with ⟨⟨letter, other⟩, listed, same, written⟩ |
      ⟨written, length, bytes, digits, value⟩
    · obtain rfl : other = character := same
      rw [written]
      exact .sign letter listed
    · rw [written]
      exact .code _ length bytes digits control value
  · by_cases quote : character = '"'
    · subst quote
      exact .sign '"' (by decide)
    · by_cases slash : character = '\\'
      · subst slash
        exact .sign '\\' (by decide)
      · have written : writtenChar character = String.ofList [character] := by
          have apart : ∀ other : Char, other.toNat < 0x20 → (character == other) = false := by
            intro other low
            apply beq_eq_false_iff_ne.mpr
            rintro rfl
            exact control low
          unfold writtenChar
          rw [if_neg (by simpa using quote), if_neg (by simpa using slash),
            apart '\n' (by decide), apart '\r' (by decide), apart '\t' (by decide),
            apart '\x08' (by decide), apart '\x0c' (by decide), if_neg control]
          rfl
        rw [written, String.toList_ofList]
        exact .plain quote slash (by omega)

theorem gives_nextInString (character : Char) :
    Gives nextInString depth (character :: rest) character rest :=
  gives_bind (gives_next character) (gives_pure _)

theorem gives_hexEscape (four : List Char) (length : four.length = 4)
    (bytes : Text.byteSize four = 4) (digits : four.all Text.isHexDigit = true) :
    Gives hexEscape depth (four ++ rest) (Text.digitsValue 16 four) rest := by
  intro place
  obtain ⟨behind, led⟩ := advance_eq 4 { rest := four ++ rest, place, depth }
  refine ⟨behind, ?_⟩
  have taken : (four ++ rest).take 4 = four := by
    rw [← length, List.take_left]
  have left : (four ++ rest).drop 4 = rest := by
    rw [← length, List.drop_left]
  unfold hexEscape
  rw [run_bind]
  show ExceptT.run (if Text.byteSize ((four ++ rest).take 4) < 4 then _
    else if ((four ++ rest).take 4).all Text.isHexDigit = true then _ else _ : Reading Nat) _ = _
  rw [taken, if_neg (by omega), if_pos digits, run_bind]
  show ((Except.ok (Text.digitsValue 16 four),
    Input.advance 4 { rest := four ++ rest, place, depth }) : Except Fault Nat × Input) = _
  rw [led, left]

theorem gives_escape (letter character : Char) (listed : (letter, character) ∈ signs) :
    Gives escape depth (letter :: rest) character rest := by
  simp only [signs, List.mem_cons, List.not_mem_nil, or_false, Prod.mk.injEq] at listed
  refine gives_bind (gives_nextInString letter) ?_
  rcases listed with ⟨rfl, rfl⟩ | ⟨rfl, rfl⟩ | ⟨rfl, rfl⟩ | ⟨rfl, rfl⟩ | ⟨rfl, rfl⟩ | ⟨rfl, rfl⟩ |
    ⟨rfl, rfl⟩ <;> exact gives_pure _

theorem gives_unicodeEscape (character : Char) (four : List Char) (length : four.length = 4)
    (bytes : Text.byteSize four = 4) (digits : four.all Text.isHexDigit = true)
    (control : character.toNat < 0x20) (value : Text.digitsValue 16 four = character.toNat) :
    Gives escape depth ('u' :: (four ++ rest)) character rest := by
  refine gives_bind (gives_nextInString 'u') ?_
  refine gives_bind (gives_hexEscape four length bytes digits) ?_
  have low : ¬ (0xDC00 ≤ character.toNat && character.toNat ≤ 0xDFFF) = true := by
    simp only [Bool.and_eq_true, decide_eq_true_eq]
    omega
  have single : (character.toNat < 0xD800 || 0xDBFF < character.toNat) = true := by
    simp only [Bool.or_eq_true, decide_eq_true_eq]
    omega
  dsimp only
  rw [value, if_neg low, if_pos single, Char.ofNat_toNat]
  exact gives_pure _

/-- A character that was written is read as itself, and the characters behind it follow. -/
theorem gives_character (character : Char) (count : Nat) (read value : List Char)
    (more : Gives (stringCharacters count (character :: read)) depth rest value after) :
    Gives (stringCharacters (count + 1) read) depth ((writtenChar character).toList ++ rest) value
      after := by
  have escaped := escaped_writtenChar character
  generalize (writtenChar character).toList = written at escaped
  unfold stringCharacters
  cases escaped with
  | plain quote slash shown =>
      refine gives_bind (gives_nextInString character) ?_
      split
      · contradiction
      · contradiction
      · rw [if_neg (by omega)]
        exact more
  | sign letter listed =>
      refine gives_bind (gives_nextInString '\\') ?_
      exact gives_bind (gives_escape letter character listed) more
  | code four length bytes digits control value =>
      refine gives_bind (gives_nextInString '\\') ?_
      exact gives_bind (gives_unicodeEscape character four length bytes digits control value) more

def inside (characters : List Char) : List Char :=
  characters.flatMap fun character => (writtenChar character).toList

theorem writtenText_toList (text : String) :
    (writtenText text).toList = '"' :: (inside text.toList ++ ['"']) := by
  unfold writtenText inside
  rw [String.toList_append, String.toList_append, String.toList_join, List.flatMap_map]
  rfl

theorem length_inside (characters : List Char) : characters.length ≤ (inside characters).length := by
  induction characters with
  | nil => exact Nat.le_refl 0
  | cons first rest ih =>
      have escaped := escaped_writtenChar first
      have written : 1 ≤ (writtenChar first).toList.length := by
        generalize (writtenChar first).toList = letters at escaped
        cases escaped <;> simp
      unfold inside at ih ⊢
      rw [List.flatMap_cons, List.length_append, List.length_cons]
      omega

theorem gives_stringCharacters (characters : List Char) (count : Nat)
    (enough : characters.length < count) (read : List Char) :
    Gives (stringCharacters count read) depth (inside characters ++ '"' :: after)
      (characters.reverse ++ read) after := by
  induction characters generalizing count read with
  | nil =>
      obtain ⟨fewer, rfl⟩ := Nat.exists_eq_succ_of_ne_zero (Nat.ne_of_gt enough)
      exact gives_bind (gives_nextInString '"') (gives_pure _)
  | cons first rest ih =>
      rw [List.length_cons] at enough
      obtain ⟨fewer, rfl⟩ := Nat.exists_eq_succ_of_ne_zero (Nat.ne_of_gt (Nat.zero_lt_of_lt enough))
      have more := ih fewer (by omega) (first :: read)
      rw [List.reverse_cons, List.append_assoc, List.singleton_append]
      unfold inside at more ⊢
      rw [List.flatMap_cons, List.append_assoc]
      exact gives_character first fewer read _ more

theorem gives_stringRest (text : String) :
    Gives stringRest depth (inside text.toList ++ '"' :: after) text after := by
  have enough : text.toList.length < (inside text.toList ++ '"' :: after).length + 1 := by
    have short := length_inside text.toList
    rw [List.length_append]
    omega
  refine gives_bind gives_remaining ?_
  refine gives_bind (gives_stringCharacters text.toList _ enough []) ?_
  rw [List.append_nil, List.reverse_reverse, String.ofList_toList]
  exact gives_pure _

theorem gives_skipCharacter (character : Char) (count : Nat)
    (more : Gives (skipString count) depth rest () after) :
    Gives (skipString (count + 1)) depth ((writtenChar character).toList ++ rest) () after := by
  have escaped := escaped_writtenChar character
  generalize (writtenChar character).toList = written at escaped
  unfold skipString
  refine gives_bind gives_peek ?_
  cases escaped with
  | plain quote slash shown =>
      rw [if_neg (by simp; omega)]
      refine gives_bind (gives_nextInString character) ?_
      split
      · contradiction
      · contradiction
      · exact more
  | sign letter listed =>
      rw [if_neg (by simp)]
      refine gives_bind (gives_nextInString '\\') ?_
      refine gives_bind (gives_nextInString letter) ?_
      simp only [signs, List.mem_cons, List.not_mem_nil, or_false, Prod.mk.injEq] at listed
      rcases listed with ⟨rfl, -⟩ | ⟨rfl, -⟩ | ⟨rfl, -⟩ | ⟨rfl, -⟩ | ⟨rfl, -⟩ | ⟨rfl, -⟩ |
        ⟨rfl, -⟩ <;> exact more
  | code four length bytes digits control value =>
      rw [if_neg (by simp)]
      refine gives_bind (gives_nextInString '\\') ?_
      refine gives_bind (gives_nextInString 'u') ?_
      exact gives_bind (gives_hexEscape four length bytes digits) more

theorem gives_skipString (characters : List Char) (count : Nat)
    (enough : characters.length < count) :
    Gives (skipString count) depth (inside characters ++ '"' :: after) () after := by
  induction characters generalizing count with
  | nil =>
      obtain ⟨fewer, rfl⟩ := Nat.exists_eq_succ_of_ne_zero (Nat.ne_of_gt enough)
      refine gives_bind gives_peek ?_
      rw [if_neg (by simp [inside])]
      exact gives_bind (gives_nextInString '"') (gives_pure _)
  | cons first rest ih =>
      rw [List.length_cons] at enough
      obtain ⟨fewer, rfl⟩ := Nat.exists_eq_succ_of_ne_zero (Nat.ne_of_gt (Nat.zero_lt_of_lt enough))
      have more := ih fewer (by omega)
      unfold inside at more ⊢
      rw [List.flatMap_cons, List.append_assoc]
      exact gives_skipCharacter first fewer more

end Strings

end UiContract.Json
