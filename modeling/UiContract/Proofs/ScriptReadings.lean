import UiContract.Script.Semicolon

/-!
What readings of a source text give on its first line. A reading that gives a value takes the text in
front of it and stops where the rest begins, so readings that follow one another are told by what each of
them takes. A rest that begins with a space or with what could be a comment is passed over, any other is
left as it is.
-/
namespace UiContract.Script

structure Spot where
  rest : List Char
  behind : List Char

def Spot.cursor (spot : Spot) (position reached : Nat) : Cursor :=
  { rest := spot.rest, position, line := 1, reached, behind := spot.behind, endLine := 1 }

def Gives {α : Type} (reading : Reading α) (before : Spot) (value : α) (after : Spot) : Prop :=
  ∀ position reached, ∃ moved,
    reading (before.cursor position reached) = .ok (value, after.cursor moved reached)

section Steps

variable {α β : Type} {before middle after : Spot}

theorem gives_pure (value : α) : Gives (pure value) before value before :=
  fun position _ => ⟨position, rfl⟩

theorem gives_bind {reading : Reading α} {more : α → Reading β} {value : α} {result : β}
    (first : Gives reading before value middle) (second : Gives (more value) middle result after) :
    Gives (reading >>= more) before result after := by
  intro position reached
  obtain ⟨between, read⟩ := first position reached
  obtain ⟨moved, done⟩ := second between reached
  refine ⟨moved, ?_⟩
  show (reading _ >>= fun read => more read.1 read.2) = _
  rw [read]
  exact done

theorem gives_ahead : Gives ahead before before.rest before :=
  fun position _ => ⟨position, rfl⟩

theorem gives_currentLine : Gives currentLine before 1 before :=
  fun position _ => ⟨position, rfl⟩

theorem gives_behindToken : Gives behindToken before before.behind before :=
  fun position _ => ⟨position, rfl⟩

theorem gives_orElse {reading : Reading α} (other : Reading α) {value : α}
    (first : Gives reading before value after) : Gives (orElse reading other) before value after := by
  intro position reached
  obtain ⟨moved, read⟩ := first position reached
  refine ⟨moved, ?_⟩
  unfold orElse
  rw [read]

end Steps

section Gaps

variable {text rest behind : List Char}

def Solid (rest : List Char) : Prop :=
  ∀ character ∈ rest.head?, isSpace character = false ∧ character ≠ '/'

instance (rest : List Char) : Decidable (Solid rest) :=
  decidable_of_iff ((rest.head?.all fun character => !isSpace character && character != '/') = true)
    (by simp [Solid, Option.all_eq_true])

theorem solid_cons (character : Char) (rest : List Char) (shown : isSpace character = false)
    (plain : character ≠ '/') : Solid (character :: rest) := by
  intro first member
  rw [← Option.some.inj member]
  exact ⟨shown, plain⟩

theorem skipGap_solid (solid : Solid rest) (comments : List Nat) (cursor : Cursor) :
    skipGap .space comments cursor rest = (cursor, comments) := by
  cases rest with
  | nil => rfl
  | cons first others =>
      obtain ⟨shown, plain⟩ := solid first rfl
      unfold skipGap
      dsimp only
      rw [if_neg (Bool.eq_false_iff.mp shown)]
      split
      · exact absurd rfl plain
      · exact absurd rfl plain
      · rfl

theorem advance_spot (token rest : List Char) (whole : '\n' ∉ token) (spot : Spot)
    (position reached : Nat) (found : spot.rest = token ++ rest) :
    (spot.cursor position reached).advance token.length =
      { rest, behind := spot.behind : Spot }.cursor (position + token.length) reached := by
  induction token generalizing spot position with
  | nil => rw [← found.trans (List.nil_append rest)]; rfl
  | cons first others ih =>
      have inside : '\n' ∉ others := fun member => whole (List.mem_cons_of_mem first member)
      obtain ⟨left, behind⟩ := spot
      obtain rfl : left = first :: (others ++ rest) := found
      have stays : ¬ (first == '\n') = true :=
        fun same => whole (beq_iff_eq.mp same ▸ List.mem_cons_self)
      have stepped : ({ rest := first :: (others ++ rest), behind : Spot }.cursor position reached).step =
          { rest := others ++ rest, behind : Spot }.cursor (position + 1) reached := by
        unfold Spot.cursor Cursor.step
        dsimp only
        rw [if_neg stays]
      rw [List.length_cons, Cursor.advance, stepped, ih inside _ _ rfl]
      simp [Spot.cursor, Nat.add_comm, Nat.add_left_comm]

structure Shows (text rest : List Char) : Prop where
  blanks : ∃ count, text = List.replicate count ' ' ++ rest
  solid : Solid rest

theorem Solid.here (solid : Solid rest) : Shows rest rest :=
  ⟨⟨0, rfl⟩, solid⟩

theorem Solid.blank (solid : Solid rest) : Shows (' ' :: rest) rest :=
  ⟨⟨1, rfl⟩, solid⟩

theorem skipGap_shows (shows : Shows text rest) (behind : List Char) (comments : List Nat)
    (position reached : Nat) : ∃ moved,
      skipGap .space comments (Spot.cursor ⟨text, behind⟩ position reached) text =
        (Spot.cursor ⟨rest, behind⟩ moved reached, comments) := by
  obtain ⟨⟨count, rfl⟩, solid⟩ := shows
  induction count generalizing position with
  | zero => exact ⟨position, skipGap_solid solid comments _⟩
  | succ count ih =>
      have stepped : (Spot.cursor ⟨List.replicate (count + 1) ' ' ++ rest, behind⟩ position reached).step =
          Spot.cursor ⟨List.replicate count ' ' ++ rest, behind⟩ (position + 1) reached := rfl
      obtain ⟨moved, passed⟩ := ih (position + 1)
      refine ⟨moved, ?_⟩
      rw [← passed, ← stepped]
      rfl

theorem afterGap_shows (shows : Shows text rest) : afterGap text = rest := by
  obtain ⟨moved, passed⟩ := skipGap_shows shows text [] 0 0
  exact congrArg (fun passed => passed.1.rest) passed

theorem gives_skip (shows : Shows text rest) : Gives skip ⟨text, behind⟩ () ⟨rest, behind⟩ := by
  intro position reached
  obtain ⟨moved, passed⟩ := skipGap_shows shows behind [] position reached
  refine ⟨moved, ?_⟩
  show Except.ok ((), (skipGap .space [] (Spot.cursor ⟨text, behind⟩ position reached) text).1) = _
  rw [passed]

theorem statementStart_solid (solid : Solid rest) (plain : beginsMarkupComment rest = false)
    (count position reached : Nat) :
    statementStart (count + 1) (Spot.cursor ⟨rest, behind⟩ position reached) =
      Spot.cursor ⟨rest, behind⟩ position reached := by
  have here : skipGap .space [] (Spot.cursor ⟨rest, behind⟩ position reached)
      (Spot.cursor ⟨rest, behind⟩ position reached).rest =
        (Spot.cursor ⟨rest, behind⟩ position reached, []) := skipGap_solid solid [] _
  unfold statementStart
  dsimp only
  rw [here]
  exact if_neg (Bool.eq_false_iff.mp plain)

theorem gives_take (token : List Char) (whole : '\n' ∉ token) :
    Gives (take token.length) ⟨token ++ rest, behind⟩ () ⟨rest, rest⟩ := by
  intro position reached
  refine ⟨position + token.length, ?_⟩
  unfold take
  rw [advance_spot token rest whole ⟨token ++ rest, behind⟩ position reached rfl]
  rfl

theorem gives_upcoming (shows : Shows text rest) :
    Gives upcoming ⟨text, behind⟩ rest ⟨rest, behind⟩ :=
  gives_bind (gives_skip shows) gives_ahead

end Gaps

section Tokens

variable {text rest behind : List Char}

theorem goesOn_append (sign : String) : goesOn sign (sign.toList ++ rest) = true :=
  List.isPrefixOf_iff_prefix.mpr (List.prefix_append _ _)

theorem gives_sign (written : String) (whole : '\n' ∉ written.toList)
    (shows : Shows text (written.toList ++ rest)) :
    Gives (sign written) ⟨text, behind⟩ () ⟨rest, rest⟩ := by
  refine gives_bind (gives_skip shows) (gives_bind gives_ahead ?_)
  dsimp only
  rw [if_pos (goesOn_append written)]
  exact gives_take written.toList whole

theorem gives_otherSign (written : String) (other : goesOn written rest = false)
    (shows : Shows text rest) : Gives (sign? written) ⟨text, behind⟩ false ⟨rest, behind⟩ := by
  refine gives_bind (gives_skip shows) (gives_bind gives_ahead ?_)
  dsimp only
  rw [if_neg (Bool.eq_false_iff.mp other)]
  exact gives_pure false

structure IsWord (word : List Char) : Prop where
  written : word ≠ []
  begins : ∀ character, word.head? = some character → character.isDigit = false
  plain : ∀ character ∈ word, isWordCharacter character = true

instance (word : List Char) : Decidable (IsWord word) :=
  decidable_of_iff (word ≠ [] ∧ (word.head?.all fun character => !character.isDigit) = true ∧
      word.all isWordCharacter = true)
    ⟨fun ⟨written, begins, plain⟩ =>
        ⟨written, by simpa [Option.all_eq_true] using begins, List.all_eq_true.mp plain⟩,
      fun ⟨written, begins, plain⟩ =>
        ⟨written, by simpa [Option.all_eq_true] using begins, List.all_eq_true.mpr plain⟩⟩

def EndsWord (rest : List Char) : Prop :=
  ∀ character, rest.head? = some character → isWordCharacter character = false ∧ character ≠ '\\'

theorem endsWord_cons (sign : Char) (rest : List Char) (other : isWordCharacter sign = false)
    (plain : sign ≠ '\\') : EndsWord (sign :: rest) := by
  intro character first
  rw [← Option.some.inj first]
  exact ⟨other, plain⟩

theorem endsWord_blank (rest : List Char) : EndsWord (' ' :: rest) :=
  endsWord_cons ' ' rest (by decide) (by decide)

theorem endsWord_opening (rest : List Char) : EndsWord ('(' :: rest) :=
  endsWord_cons '(' rest (by decide) (by decide)

theorem wordLength_other (ends : EndsWord rest) : wordLength 0 rest = 0 := by
  cases rest with
  | nil => rfl
  | cons first others =>
      obtain ⟨other, plain⟩ := ends first rfl
      unfold wordLength
      rw [if_neg (by simpa using plain), if_neg (Bool.eq_false_iff.mp other)]

theorem wordLength_append (word : List Char) (plain : ∀ character ∈ word, isWordCharacter character = true)
    (ends : EndsWord rest) : wordLength 0 (word ++ rest) = word.length := by
  induction word with
  | nil => exact wordLength_other ends
  | cons first others ih =>
      obtain ⟨letter, inside⟩ := List.forall_mem_cons.mp plain
      have whole : ¬ (first == '\\') = true := by
        intro same
        rw [beq_iff_eq.mp same] at letter
        exact absurd letter (by decide)
      rw [List.cons_append]
      unfold wordLength
      rw [if_neg whole, if_pos letter, ih inside, List.length_cons, Nat.add_comm]

theorem wordAt_append {word : List Char} (isWord : IsWord word) (ends : EndsWord rest) :
    wordAt (word ++ rest) = word := by
  obtain ⟨first, others, rfl⟩ := List.exists_cons_of_ne_nil isWord.written
  have letter := isWord.begins first rfl
  have length := wordLength_append _ isWord.plain ends
  unfold wordAt
  rw [List.cons_append] at length ⊢
  dsimp only
  rw [if_neg (Bool.eq_false_iff.mp letter), length, ← List.cons_append, List.take_left]

theorem wordAt_other (ends : EndsWord rest) : wordAt rest = [] := by
  unfold wordAt
  split
  · rfl
  · split
    · rfl
    · rw [wordLength_other ends, List.take_zero]

theorem IsWord.head {word : List Char} (isWord : IsWord word) (rest : List Char) :
    ∀ first ∈ (word ++ rest).head?, isWordCharacter first = true := by
  obtain ⟨letter, others, rfl⟩ := List.exists_cons_of_ne_nil isWord.written
  intro first member
  obtain rfl : letter = first := Option.some.inj member
  exact isWord.plain letter List.mem_cons_self

theorem IsWord.solid {word : List Char} (isWord : IsWord word) (rest : List Char) :
    Solid (word ++ rest) := by
  intro first member
  have letter := isWord.head rest first member
  constructor
  · unfold isWordCharacter at letter
    simp only [Bool.and_eq_true, Bool.not_eq_true'] at letter
    exact letter.1.2
  · rintro rfl
    exact absurd letter (by decide)

theorem IsWord.whole {word : List Char} (isWord : IsWord word) : '\n' ∉ word :=
  fun member => absurd (isWord.plain _ member) (by decide)

theorem IsWord.noNul {word : List Char} (isWord : IsWord word) : nul ∉ word :=
  fun member => absurd (isWord.plain _ member) (by decide)

/-- A text does not begin as another one that has a different first character. -/
theorem isPrefixOf_other {sign : Char} (signs : List Char) (other : rest.head? ≠ some sign) :
    (sign :: signs).isPrefixOf rest = false := by
  cases rest with
  | nil => rfl
  | cons first others =>
      have apart : (sign == first) = false := beq_eq_false_iff_ne.mpr fun same => other (same ▸ rfl)
      show (sign == first && signs.isPrefixOf others) = false
      rw [apart, Bool.false_and]

theorem IsWord.other_head {word : List Char} (isWord : IsWord word) (rest : List Char) (sign : Char)
    (apart : isWordCharacter sign = false) : (word ++ rest).head? ≠ some sign := by
  intro same
  rw [isWord.head rest sign same] at apart
  contradiction

theorem IsWord.no_comment {word : List Char} (isWord : IsWord word) (rest : List Char) :
    beginsMarkupComment (word ++ rest) = false := by
  have left : "<!--".toList.isPrefixOf (word ++ rest) = false :=
    isPrefixOf_other "!--".toList (isWord.other_head rest '<' (by decide))
  have right : "-->".toList.isPrefixOf (word ++ rest) = false :=
    isPrefixOf_other "->".toList (isWord.other_head rest '-' (by decide))
  rw [beginsMarkupComment, left, right, Bool.or_self]

theorem IsWord.no_mark {word : List Char} (isWord : IsWord word) (rest : List Char) :
    goesOn "#!" (word ++ rest) = false :=
  isPrefixOf_other "!".toList (isWord.other_head rest '#' (by decide))

theorem gives_anyWord {word : List Char} (isWord : IsWord word) (ends : EndsWord rest)
    (shows : Shows text (word ++ rest)) :
    Gives anyWord ⟨text, behind⟩ ⟨word, 1⟩ ⟨rest, rest⟩ := by
  refine gives_bind (gives_skip shows) (gives_bind gives_ahead ?_)
  dsimp only
  rw [wordAt_append isWord ends, if_neg (by simpa using isWord.written)]
  exact gives_bind gives_currentLine (gives_bind (gives_take word isWord.whole) (gives_pure _))

theorem gives_theWord (written : String) (isWord : IsWord written.toList) (ends : EndsWord rest)
    (shows : Shows text (written.toList ++ rest)) :
    Gives (theWord written) ⟨text, behind⟩ ⟨written.toList, 1⟩ ⟨rest, rest⟩ := by
  refine gives_bind (gives_skip shows) (gives_bind gives_ahead ?_)
  dsimp only
  rw [wordAt_append isWord ends, if_pos (beq_self_eq_true _)]
  exact gives_bind gives_currentLine (gives_bind (gives_take _ isWord.whole) (gives_pure _))

theorem gives_otherWord (written : String) (other : wordAt rest ≠ written.toList)
    (shows : Shows text rest) : Gives (theWord? written) ⟨text, behind⟩ false ⟨rest, behind⟩ := by
  refine gives_bind (gives_skip shows) (gives_bind gives_ahead ?_)
  dsimp only
  rw [if_neg (by simpa using other)]
  exact gives_pure false

theorem gives_upcomingWord (shows : Shows text rest) :
    Gives upcomingWord ⟨text, behind⟩ (String.ofList (wordAt rest)) ⟨rest, behind⟩ :=
  gives_bind (gives_skip shows) (gives_bind gives_ahead (gives_pure _))

theorem gives_behindWord (shows : Shows text rest) :
    Gives behindWord ⟨text, behind⟩ (afterGap (rest.drop (wordAt rest).length)) ⟨rest, behind⟩ :=
  gives_bind (gives_skip shows) (gives_bind gives_ahead (gives_pure _))

theorem gives_crossesLine (shows : Shows text rest) :
    Gives crossesLine ⟨text, behind⟩ false ⟨rest, behind⟩ :=
  gives_bind (gives_skip shows) fun position _ => ⟨position, rfl⟩

theorem gives_skipComments (solid : Solid rest) :
    Gives skipComments ⟨rest, rest⟩ [] ⟨rest, rest⟩ := by
  intro position reached
  refine ⟨position, ?_⟩
  unfold skipComments Spot.cursor
  dsimp only
  rw [skipGap_solid solid, skipGap_solid solid]
  rfl

end Tokens

section Literals

variable {rest behind whole : List Char}

structure Quotable (quote : Char) (text : List Char) : Prop where
  quoteless : quote ∉ text
  bare : '\\' ∉ text
  line : '\n' ∉ text
  return_ : '\r' ∉ text
  noNul : nul ∉ text

instance (quote : Char) (text : List Char) : Decidable (Quotable quote text) :=
  decidable_of_iff (quote ∉ text ∧ '\\' ∉ text ∧ '\n' ∉ text ∧ '\r' ∉ text ∧ nul ∉ text)
    ⟨fun ⟨quoteless, bare, line, return_, noNul⟩ => ⟨quoteless, bare, line, return_, noNul⟩,
      fun ⟨quoteless, bare, line, return_, noNul⟩ => ⟨quoteless, bare, line, return_, noNul⟩⟩

variable {quote : Char} {text : List Char}

theorem stringEnd_quotable (quotable : Quotable quote text) (count : Nat) :
    stringEnd quote 0 count (text ++ quote :: rest) = .closed (count + text.length + 1) := by
  induction text generalizing count with
  | nil =>
      unfold stringEnd
      rw [List.nil_append]
      dsimp only
      rw [if_pos (beq_self_eq_true quote)]
      rfl
  | cons first others ih =>
      have inside : Quotable quote others :=
        ⟨fun member => quotable.quoteless (List.mem_cons_of_mem first member),
          fun member => quotable.bare (List.mem_cons_of_mem first member),
          fun member => quotable.line (List.mem_cons_of_mem first member),
          fun member => quotable.return_ (List.mem_cons_of_mem first member),
          fun member => quotable.noNul (List.mem_cons_of_mem first member)⟩
      have other : ∀ character, character ∉ first :: others → ¬ (first == character) = true :=
        fun character apart same => apart (beq_iff_eq.mp same ▸ List.mem_cons_self)
      have line : ¬ (first == '\n' || first == '\r') = true := by
        rw [Bool.or_eq_true]
        exact fun either => either.elim (other _ quotable.line) (other _ quotable.return_)
      rw [List.cons_append]
      unfold stringEnd
      rw [if_neg (other quote quotable.quoteless), if_neg (other _ quotable.bare), if_neg line, ih inside,
        List.length_cons]
      congr 1
      omega

structure Literal where
  quote : Char
  inside : List Char
  kinds : quote = '"' ∨ quote = '\''
  quotable : Quotable quote inside

@[irreducible] def Literal.written (literal : Literal) : List Char :=
  literal.quote :: (literal.inside ++ [literal.quote])

def Literal.shown (literal : Literal) : String := String.ofList literal.written

namespace Literal

variable (literal : Literal)

theorem noNul_written : nul ∉ literal.written := by
  have quotes : nul ≠ literal.quote := by
    rcases literal.kinds with same | same <;> rw [same] <;> decide
  simp [written, quotes, literal.quotable.noNul]

theorem written_append (rest : List Char) :
    literal.written ++ rest = literal.quote :: (literal.inside ++ literal.quote :: rest) := by
  simp [written]

theorem head_written {first : Char} {others : List Char}
    (same : literal.written ++ rest = first :: others) : first = '"' ∨ first = '\'' := by
  rw [written_append] at same
  exact (List.cons.inj same).1 ▸ literal.kinds

theorem solid (rest : List Char) : Solid (literal.written ++ rest) := by
  rw [written_append]
  rcases literal.kinds with same | same <;> rw [same] <;> exact solid_cons _ _ (by decide) (by decide)

theorem endsWord (rest : List Char) : EndsWord (literal.written ++ rest) := by
  rw [written_append]
  rcases literal.kinds with same | same <;> rw [same] <;>
    exact endsWord_cons _ _ (by decide) (by decide)

theorem begins : (literal.quote == '"' || literal.quote == '\'') = true := by
  rcases literal.kinds with same | same <;> rw [same] <;> rfl

theorem begins_written (rest : List Char) : ((literal.written ++ rest).head? == some '"' ||
    (literal.written ++ rest).head? == some '\'') = true := by
  rw [written_append]
  exact literal.begins

end Literal

theorem gives_stringLiteral (literal : Literal) (shows : Shows whole (literal.written ++ rest)) :
    Gives stringLiteral ⟨whole, behind⟩ ⟨literal.written, 1⟩ ⟨rest, rest⟩ := by
  have length : literal.written.length = 0 + literal.inside.length + 1 + 1 := by
    simp [Literal.written]
  have single : '\n' ∉ literal.written := by
    have apart : '\n' ≠ literal.quote := by
      rcases literal.kinds with same | same <;> rw [same] <;> decide
    simp [Literal.written, literal.quotable.line, apart]
  refine gives_bind (gives_skip shows) (gives_bind gives_ahead ?_)
  dsimp only
  have token : Gives (take literal.written.length) ⟨literal.written ++ rest, behind⟩ ()
      ⟨rest, rest⟩ := gives_take _ single
  have taken : (literal.written ++ rest).take (0 + literal.inside.length + 1 + 1) =
      literal.written := by
    rw [← length, List.take_left]
  rw [length] at token
  rw [literal.written_append] at token taken ⊢
  dsimp only
  rw [if_pos literal.begins, stringEnd_quotable literal.quotable]
  dsimp only
  rw [taken]
  exact gives_bind gives_currentLine (gives_bind token (gives_pure _))

end Literals

section Ends

variable (language : Language) (ending : Ending)

theorem gives_semicolon : Gives (semicolon language ending) ⟨[], []⟩ () ⟨[], []⟩ := by
  refine gives_bind gives_behindToken ?_
  exact gives_skip (Solid.here nofun)

theorem gives_endsHere : Gives (endsHere language ending) ⟨[], []⟩ true ⟨[], []⟩ :=
  gives_bind gives_behindToken (gives_pure _)

end Ends

end UiContract.Script
