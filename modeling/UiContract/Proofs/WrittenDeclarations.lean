import UiContract.Proofs.ScriptReadings
import UiContract.Script.Parse

/-!
Declarations as they are written. A text that names a module by a literal, in an import, an export or a
call of `import`, is read as the program of that one statement, in every language. Each rule of the
grammar on the way is told by what it takes; the words and signs that decide between the rules are those
of the text, and a literal decides nothing but by its quote.
-/
namespace UiContract

namespace Script

section Statements

variable (language : Language) (parse : Grammar) {rest behind : List Char} {after : Spot}

theorem isWord_import : IsWord "import".toList := by decide

theorem isWord_export : IsWord "export".toList := by decide

theorem isWord_from : IsWord "from".toList := by decide

theorem gives_statement (word : String) (isWord : IsWord word.toList) (ends : EndsWord rest)
    {tree : Tree} (read : Gives (wordStatement language parse word 1) ⟨word.toList ++ rest, behind⟩
      tree after) :
    Gives (statement language parse) ⟨word.toList ++ rest, behind⟩ { tree } after := by
  have begins : Gives toStatement ⟨word.toList ++ rest, behind⟩ () ⟨word.toList ++ rest, behind⟩ := by
    intro position reached
    refine ⟨position, ?_⟩
    unfold toStatement
    rw [statementStart_solid (isWord.solid rest) (isWord.no_comment rest)]
  have sign : ∀ character others, word.toList ++ rest = character :: others →
      isWordCharacter character = true := by
    intro character others same
    exact isWord.head rest character (by rw [same]; rfl)
  refine gives_bind begins (gives_bind gives_ahead (gives_bind gives_currentLine ?_))
  dsimp only
  split
  · rename_i none
    exact absurd (List.append_eq_nil_iff.mp none).1 isWord.written
  · rename_i same
    exact absurd (sign _ _ same) (by decide)
  · rename_i same
    exact absurd (sign _ _ same) (by decide)
  · rename_i same
    exact absurd (sign _ _ same) (by decide)
  · have named : ¬ (word == "") = true := by
      intro none
      exact isWord.written (by rw [beq_iff_eq.mp none]; rfl)
    rw [wordAt_append isWord ends, String.ofList_toList, if_neg named]
    exact gives_bind read (gives_pure _)

end Statements

section Imports

variable (language : Language) (parse : Grammar) {rest behind : List Char} {after : Spot}

def sourceLeaf (literal : Literal) : Tree :=
  (leaf .string 1 literal.written).inRole .source

variable (literal : Literal)

theorem gives_moduleSource {whole : List Char} (shows : Shows whole (literal.written ++ [])) :
    Gives moduleSource ⟨whole, behind⟩ (sourceLeaf literal) ⟨[], []⟩ :=
  gives_bind (gives_stringLiteral literal shows) (gives_pure _)

def fromText (literal : Literal) : List Char :=
  "from".toList ++ ' ' :: (literal.written ++ [])

theorem solid_fromText : Solid (fromText literal) :=
  isWord_from.solid _

theorem gives_fromModule {whole : List Char} (shows : Shows whole (fromText literal)) :
    Gives fromModule ⟨whole, behind⟩ (sourceLeaf literal) ⟨[], []⟩ :=
  gives_bind (gives_theWord "from" isWord_from (endsWord_blank _) shows)
    (gives_moduleSource literal (literal.solid []).blank)

theorem gives_importAttribute : Gives (importAttribute language parse) ⟨[], []⟩ [] ⟨[], []⟩ := by
  refine gives_bind (gives_endsHere language .other) ?_
  rw [if_pos rfl]
  exact gives_bind gives_ahead (gives_pure _)

theorem gives_importRest_bare :
    Gives (importRest language parse 1) ⟨' ' :: (literal.written ++ []), behind⟩
      (above .importStatement 1 [sourceLeaf literal]) ⟨[], []⟩ := by
  have solid := literal.solid []
  have other : wordAt (literal.written ++ []) = [] := wordAt_other (literal.endsWord [])
  refine gives_bind (gives_upcomingWord solid.blank) (gives_bind (gives_behindWord solid.here) ?_)
  rw [other]
  dsimp only
  rw [if_neg (by simp)]
  refine gives_bind (gives_pure []) (gives_bind (gives_upcoming solid.here) ?_)
  rw [if_pos (literal.begins_written [])]
  refine gives_bind (gives_moduleSource literal solid.here) ?_
  refine gives_bind (gives_importAttribute language parse) ?_
  exact gives_bind (gives_semicolon language .other) (gives_pure _)

/-- A word that a declaration may bind as a name. The word `typeof` marks a declaration wherever it
stands. -/
structure IsName (name : List Char) : Prop where
  isWord : IsWord name
  free : name ≠ "typeof".toList

instance (name : List Char) : Decidable (IsName name) :=
  decidable_of_iff (IsWord name ∧ name ≠ "typeof".toList)
    ⟨fun ⟨isWord, free⟩ => ⟨isWord, free⟩, fun ⟨isWord, free⟩ => ⟨isWord, free⟩⟩

/-- The word `type` marks no declaration where it is the name that the declaration binds. -/
theorem unmarked_name {name : List Char} (isName : IsName name) :
    ¬ (hasTypes language && (String.ofList name == "type" || String.ofList name == "typeof") &&
      !(String.ofList name == "type" && ((fromText literal).head? == some ',' ||
        (wordAt (fromText literal) == "from".toList &&
          ((afterGap ((fromText literal).drop 4)).head? == some '"' ||
            (afterGap ((fromText literal).drop 4)).head? == some '\''))))) = true := by
  have word : wordAt (fromText literal) = "from".toList :=
    wordAt_append isWord_from (endsWord_blank _)
  have source : afterGap ((fromText literal).drop 4) = literal.written ++ [] :=
    afterGap_shows (literal.solid []).blank
  have free : (String.ofList name == "typeof") = false :=
    beq_eq_false_iff_ne.mpr fun same => isName.free (by rw [← same, String.toList_ofList])
  rw [word, source, literal.begins_written [], free]
  simp

theorem gives_importClause {name : List Char} (isName : IsName name) :
    Gives (importClause parse) ⟨name ++ ' ' :: fromText literal, behind⟩
      (above .importClause 1 [leaf .identifier 1 name]) ⟨fromText literal, ' ' :: fromText literal⟩ := by
  have solid := isName.isWord.solid (' ' :: fromText literal)
  refine gives_bind (gives_upcoming solid.here) (gives_bind gives_currentLine ?_)
  have begins : beginsWord (name ++ ' ' :: fromText literal) = true := by
    rw [beginsWord, wordAt_append isName.isWord (endsWord_blank _), bne_iff_ne]
    exact isName.isWord.written
  rw [if_pos begins]
  refine gives_bind (gives_anyWord isName.isWord (endsWord_blank _) solid.here) ?_
  refine gives_bind (gives_otherSign "," rfl (solid_fromText literal).blank) ?_
  rw [if_neg Bool.false_ne_true]
  exact gives_pure _

theorem gives_importRest_name {name : List Char} (isName : IsName name) :
    Gives (importRest language parse 1) ⟨' ' :: (name ++ ' ' :: fromText literal), behind⟩
      (above .importStatement 1
        [above .importClause 1 [leaf .identifier 1 name], sourceLeaf literal]) ⟨[], []⟩ := by
  have solid := isName.isWord.solid (' ' :: fromText literal)
  have word : wordAt (name ++ ' ' :: fromText literal) = name :=
    wordAt_append isName.isWord (endsWord_blank _)
  have behindName : afterGap ((name ++ ' ' :: fromText literal).drop name.length) =
      fromText literal := by
    rw [List.drop_left, afterGap_shows (solid_fromText literal).blank]
  refine gives_bind (gives_upcomingWord solid.blank) (gives_bind (gives_behindWord solid.here) ?_)
  rw [word, behindName]
  dsimp only
  rw [if_neg (unmarked_name language literal isName)]
  refine gives_bind (gives_pure []) (gives_bind (gives_upcoming solid.here) ?_)
  rw [beq_eq_false_iff_ne.mpr (isName.isWord.other_head _ '"' (by decide)),
    beq_eq_false_iff_ne.mpr (isName.isWord.other_head _ '\'' (by decide)),
    Bool.or_self, if_neg Bool.false_ne_true]
  refine gives_bind (gives_behindWord solid.here) ?_
  rw [word, behindName, if_neg ?_]
  · refine gives_bind (gives_importClause parse literal isName) ?_
    refine gives_bind (gives_fromModule literal (solid_fromText literal).here) ?_
    refine gives_bind (gives_importAttribute language parse) ?_
    exact gives_bind (gives_semicolon language .other) (gives_pure _)
  · rw [show (fromText literal).head? = some 'f' from rfl]
    simp

/-- The word `import` begins a declaration unless a call or a member follows. -/
theorem gives_import {rest shown : List Char} {tree : Tree} (ends : EndsWord rest)
    (shows : Shows rest shown) (plain : ∀ sign ∈ "(.`?<".toList, shown.head? ≠ some sign)
    (read : Gives (importRest language parse 1) ⟨rest, rest⟩ tree after) :
    Gives (wordStatement language parse "import" 1) ⟨"import".toList ++ rest, behind⟩ tree after := by
  have solid := isWord_import.solid rest
  refine gives_bind gives_ahead (gives_bind (gives_behindWord solid.here) ?_)
  rw [wordAt_append isWord_import ends, List.drop_left, afterGap_shows shows]
  dsimp only
  rw [if_pos (beq_self_eq_true _), if_neg ?_]
  · exact gives_bind (gives_take _ isWord_import.whole) read
  · have apart : ∀ sign ∈ "(.`?<".toList, (shown.headD ' ' == sign) = false := by
      intro sign member
      refine beq_eq_false_iff_ne.mpr fun same => ?_
      cases shown with
      | nil =>
          rw [← same] at member
          exact absurd member (by decide)
      | cons first others => exact plain sign member (congrArg some same)
    rw [apart '(' (by decide), apart '.' (by decide), apart '`' (by decide), apart '?' (by decide),
      apart '<' (by decide)]
    exact Bool.false_ne_true

theorem gives_exportAll :
    Gives (exportAll language 1) ⟨'*' :: ' ' :: fromText literal, behind⟩
      (above .exportStatement 1 [sourceLeaf literal]) ⟨[], []⟩ := by
  have star : Solid ('*' :: ' ' :: fromText literal) := solid_cons _ _ (by decide) (by decide)
  have other : wordAt (fromText literal) ≠ "as".toList := by
    rw [fromText, wordAt_append isWord_from (endsWord_blank _)]
    decide
  refine gives_bind (gives_skip star.here) (gives_bind gives_currentLine ?_)
  refine gives_bind (gives_sign "*" (by decide) star.here) ?_
  refine gives_bind (gives_otherWord "as" other (solid_fromText literal).blank) ?_
  rw [if_neg Bool.false_ne_true]
  refine gives_bind (gives_pure []) ?_
  refine gives_bind (gives_fromModule literal (solid_fromText literal).here) ?_
  exact gives_bind (gives_semicolon language .other) (gives_pure _)

theorem gives_exportRest :
    Gives (exportRest language parse 1 []) ⟨' ' :: '*' :: ' ' :: fromText literal, behind⟩
      (above .exportStatement 1 [sourceLeaf literal]) ⟨[], []⟩ := by
  have star : Solid ('*' :: ' ' :: fromText literal) := solid_cons _ _ (by decide) (by decide)
  refine gives_bind (gives_upcoming star.blank) (gives_bind (gives_behindWord star.here) ?_)
  rw [List.head?_cons, if_pos (beq_self_eq_true _)]
  exact gives_exportAll language literal

theorem gives_export :
    Gives (wordStatement language parse "export" 1)
      ⟨"export".toList ++ ' ' :: '*' :: ' ' :: fromText literal, behind⟩
      (above .exportStatement 1 [sourceLeaf literal]) ⟨[], []⟩ := by
  have star : Solid ('*' :: ' ' :: fromText literal) := solid_cons _ _ (by decide) (by decide)
  have solid := isWord_export.solid (' ' :: '*' :: ' ' :: fromText literal)
  refine gives_bind gives_ahead (gives_bind (gives_behindWord solid.here) ?_)
  rw [wordAt_append isWord_export (endsWord_blank _), List.drop_left, afterGap_shows star.blank]
  dsimp only
  rw [if_neg (by decide), if_pos (beq_self_eq_true _), if_neg ?_]
  · refine gives_orElse _ (gives_bind (gives_take _ isWord_export.whole) ?_)
    exact gives_exportRest language parse literal
  · have goes : mayEnd language .expression (' ' :: '*' :: ' ' :: fromText literal) = false := rfl
    rw [show ("export".toList ++ ' ' :: '*' :: ' ' :: fromText literal).drop "export".length =
      ' ' :: '*' :: ' ' :: fromText literal from rfl, goes, Bool.false_and]
    exact Bool.false_ne_true

end Imports

section Calls

variable (language : Language) (parse : Grammar) (mode : Mode) {rest behind : List Char} {after : Spot}

def Closes (rest : List Char) : Prop := rest = [] ∨ rest = [')']

theorem Closes.solid (closes : Closes rest) : Solid rest := by
  rcases closes with rfl | rfl <;> decide

theorem gives_operators (closes : Closes rest) (first : Parsed) (value : first.shape.expression = true) :
    Gives (operators language parse mode first) ⟨rest, behind⟩ first ⟨rest, behind⟩ := by
  refine gives_bind (gives_crossesLine closes.solid.here) (gives_bind (gives_upcoming closes.solid.here) ?_)
  rw [value]
  rcases closes with rfl | rfl <;> cases language <;> exact gives_pure first

theorem gives_chain (closes : Closes rest) (head : Parsed) (value : head.shape.expression = true) :
    Gives (chain language parse mode head) ⟨rest, behind⟩ head ⟨rest, behind⟩ := by
  unfold chain
  rw [value, if_neg (by decide)]
  refine gives_bind (gives_crossesLine closes.solid.here) (gives_bind (gives_upcoming closes.solid.here) ?_)
  rcases closes with rfl | rfl <;> exact gives_pure head

variable (depth : Nat)

/-- An operand that begins with a quote or a letter is read up to its end, unless a word in front of it
is an operator. -/
theorem gives_cover {first : Char} {others more : List Char} {tree : Tree}
    (opens : first = '"' ∨ first = '\'' ∨ first = 'i') (closes : Closes more)
    (plain : ∀ word ∈ "yield" :: unaryWords, wordAt (first :: others) ≠ word.toList)
    (read : Gives (grammar language (depth + 1) (.operand mode)) ⟨first :: others, behind⟩ { tree }
      ⟨more, more⟩) :
    Gives (grammar language (depth + 2) (.cover mode)) ⟨first :: others, behind⟩ { tree }
      ⟨more, more⟩ := by
  have solid : Solid (first :: others) := by
    rcases opens with rfl | rfl | rfl <;> exact solid_cons _ _ (by decide) (by decide)
  have other : ∀ word ∈ "yield" :: unaryWords,
      ¬ (String.ofList (wordAt (first :: others)) == word) = true := by
    intro word member same
    exact plain word member (by rw [← beq_iff_eq.mp same, String.toList_ofList])
  have unary : ¬ unaryWords.contains (String.ofList (wordAt (first :: others))) = true := by
    intro known
    exact other _ (List.mem_cons_of_mem _ (List.contains_iff_mem.mp known)) (beq_self_eq_true _)
  have signs : ¬ (goesOn "++" (first :: others) || goesOn "--" (first :: others)) = true ∧
      ¬ "!~+-".toList.contains ((first :: others).headD ' ') = true ∧
      ¬ ((first :: others).head? == some '<' && language == .typeScript) = true := by
    rcases opens with rfl | rfl | rfl <;>
      exact ⟨Bool.false_ne_true, Bool.false_ne_true, Bool.false_ne_true⟩
  refine gives_bind (gives_upcoming solid.here) (gives_bind gives_currentLine ?_)
  dsimp only
  rw [if_neg signs.1, if_neg signs.2.1, if_neg unary, if_neg (other "yield" List.mem_cons_self),
    if_neg signs.2.2]
  exact gives_bind read
    (gives_operators language (grammar language depth) mode closes { tree } rfl)

theorem gives_expression {first : Char} {others more : List Char} {tree : Tree}
    (opens : first = '"' ∨ first = '\'' ∨ first = 'i') (closes : Closes more)
    (plain : ∀ word ∈ "yield" :: unaryWords, wordAt (first :: others) ≠ word.toList)
    (read : Gives (beginning language (grammar language (depth + 1)) mode) ⟨first :: others, behind⟩
      { tree } ⟨more, more⟩) :
    Gives (grammar language (depth + 4) (.expression mode)) ⟨first :: others, behind⟩ { tree }
      ⟨more, more⟩ := by
  have operand : Gives (grammar language (depth + 2) (.operand mode)) ⟨first :: others, behind⟩
      { tree } ⟨more, more⟩ :=
    gives_bind read (gives_chain language (grammar language depth) mode closes { tree } rfl)
  have covered : Gives (grammar language (depth + 3) (.cover mode)) ⟨first :: others, behind⟩ { tree }
      ⟨more, more⟩ := 
    gives_cover language mode (depth + 1) opens closes plain operand
  exact gives_bind covered (gives_pure _)

variable (literal : Literal)

theorem gives_literal :
    Gives (grammar language (depth + 4) (.expression mode)) ⟨literal.written ++ [')'], behind⟩
      { tree := leaf .string 1 literal.written } ⟨[')'], [')']⟩ := by
  have solid := literal.solid [')']
  have none : wordAt (literal.written ++ [')']) = [] := wordAt_other (literal.endsWord [')'])
  have read : Gives (beginning language (grammar language (depth + 1)) mode)
      ⟨literal.written ++ [')'], behind⟩ { tree := leaf .string 1 literal.written }
        ⟨[')'], [')']⟩ := by
    have given : Gives stringLiteral ⟨literal.written ++ [')'], behind⟩ ⟨literal.written, 1⟩
        ⟨[')'], [')']⟩ := gives_stringLiteral literal solid.here
    refine gives_bind (gives_upcoming solid.here) (gives_bind gives_currentLine ?_)
    rw [literal.written_append] at given ⊢
    rcases literal.kinds with same | same <;> rw [same] at given ⊢ <;>
      exact gives_bind given (gives_pure _)
  rw [literal.written_append] at none read ⊢
  refine gives_expression language mode depth (literal.kinds.elim .inl fun single => .inr (.inl single))
    (.inr rfl) ?_ read
  rw [none]
  decide

theorem gives_argumentItems :
    Gives (grammar language (depth + 5) (.argumentItems []))
      ⟨literal.written ++ [')'], literal.written ++ [')']⟩
      { tree := above .arguments 1 [leaf .string 1 literal.written] } ⟨[')'], [')']⟩ := by
  refine gives_bind (gives_skipComments (literal.solid [')']))
    (gives_bind gives_ahead (gives_bind gives_currentLine ?_))
  have given : Gives (grammar language (depth + 4) (.expression Mode.bracketed))
      ⟨literal.written ++ [')'], literal.written ++ [')']⟩
      { tree := leaf .string 1 literal.written } ⟨[')'], [')']⟩ :=
    gives_literal language Mode.bracketed depth literal
  have closing : Gives skipComments ⟨[')'], [')']⟩ [] ⟨[')'], [')']⟩ := gives_skipComments (by decide)
  have dots : ¬ goesOn "..." (literal.written ++ [')']) = true := by
    rw [literal.written_append]
    rcases literal.kinds with same | same <;> rw [same] <;> exact Bool.false_ne_true
  dsimp only
  split
  · rename_i same
    rcases literal.head_written same with wrong | wrong <;> contradiction
  · rename_i same
    rcases literal.head_written same with wrong | wrong <;> contradiction
  · rw [if_neg dots]
    refine gives_bind given (gives_bind (gives_pure _) (gives_bind closing ?_))
    exact gives_bind gives_ahead (gives_pure _)

theorem gives_callArguments :
    Gives (callArguments (grammar language (depth + 5))) ⟨'(' :: (literal.written ++ [')']), behind⟩
      (above .arguments 1 [leaf .string 1 literal.written]) ⟨[], []⟩ := by
  have opening : Solid ('(' :: (literal.written ++ [')'])) := solid_cons _ _ (by decide) (by decide)
  refine gives_bind (gives_skip opening.here) (gives_bind gives_currentLine ?_)
  refine gives_bind (gives_sign "(" (by decide) opening.here) ?_
  refine gives_bind (gives_argumentItems language depth literal) ?_
  exact gives_bind (gives_sign ")" (by decide) (Solid.here (by decide))) (gives_pure _)

def callTree (literal : Literal) : Tree :=
  call (leaf .importWord 1 "import".toList) (above .arguments 1 [leaf .string 1 literal.written])

def callText (literal : Literal) : List Char :=
  "import".toList ++ '(' :: (literal.written ++ [')'])

theorem gives_importOperand :
    Gives (importOperand language (grammar language (depth + 5)) ⟨"import".toList, 1⟩)
      ⟨'(' :: (literal.written ++ [')']), behind⟩ { tree := callTree literal } ⟨[], []⟩ := by
  have opening : Solid ('(' :: (literal.written ++ [')'])) := solid_cons _ _ (by decide) (by decide)
  refine gives_bind (gives_upcoming opening.here) ?_
  exact gives_bind (gives_callArguments language depth literal) (gives_pure _)

theorem wordAt_callText : wordAt (callText literal) = "import".toList :=
  wordAt_append isWord_import (endsWord_opening _)

theorem gives_wordOperand :
    Gives (wordOperand language (grammar language (depth + 5)) mode) ⟨callText literal, behind⟩
      { tree := callTree literal } ⟨[], []⟩ := by
  have solid : Solid (callText literal) := isWord_import.solid _
  refine gives_bind (gives_upcomingWord solid.here) ?_
  rw [wordAt_callText, String.ofList_toList, if_neg (by decide)]
  refine gives_bind (gives_anyWord isWord_import (endsWord_opening _) solid.here) ?_
  rw [if_neg (by decide), if_neg (by decide), if_neg (by decide), if_pos (by decide)]
  exact gives_importOperand language depth literal

theorem gives_beginning :
    Gives (beginning language (grammar language (depth + 5)) mode) ⟨callText literal, behind⟩
      { tree := callTree literal } ⟨[], []⟩ := by
  have solid : Solid (callText literal) := isWord_import.solid _
  have begins : beginsWord (callText literal) = true := by
    rw [beginsWord, wordAt_callText]
    decide
  have opens : callText literal = 'i' :: ("mport".toList ++ '(' :: (literal.written ++ [')'])) := rfl
  refine gives_bind (gives_upcoming solid.here) (gives_bind gives_currentLine ?_)
  rw [begins, opens]
  dsimp only
  rw [if_neg (by decide), if_neg (by decide), if_neg (by decide), if_neg (by decide),
    if_neg (by decide), if_neg (by decide), if_neg (by decide), if_neg (by decide),
    if_neg (by decide), if_pos rfl]
  exact gives_wordOperand language mode depth literal

theorem gives_sequence :
    Gives (grammar language (depth + 9) (.sequence mode)) ⟨callText literal, behind⟩
      { tree := callTree literal } ⟨[], []⟩ := by
  have inner : Gives (grammar language (depth + 8) (.expression mode)) ⟨callText literal, behind⟩
      { tree := callTree literal } ⟨[], []⟩ := by
    refine gives_expression language mode (depth + 4) (.inr (.inr rfl)) (.inl rfl) ?_
      (gives_beginning language mode depth literal)
    show ∀ word ∈ "yield" :: unaryWords, wordAt (callText literal) ≠ word.toList
    rw [wordAt_callText]
    decide
  refine gives_bind inner (gives_bind (gives_otherSign "," rfl (Solid.here nofun)) ?_)
  exact gives_pure _

theorem gives_call : Gives (wordStatement language (grammar language (depth + 9)) "import" 1)
    ⟨"import".toList ++ '(' :: (literal.written ++ [')']), behind⟩
      (above .statement 1 [callTree literal]) ⟨[], []⟩ := by
  have opening : Solid ('(' :: (literal.written ++ [')'])) := solid_cons _ _ (by decide) (by decide)
  have solid : Solid ("import".toList ++ '(' :: (literal.written ++ [')'])) := isWord_import.solid _
  refine gives_bind gives_ahead (gives_bind (gives_behindWord solid.here) ?_)
  rw [wordAt_append isWord_import (endsWord_opening _), List.drop_left, afterGap_shows opening.here]
  dsimp only
  rw [if_pos (beq_self_eq_true _), List.headD_cons, if_pos (by simp)]
  refine gives_bind (gives_sequence language {} depth literal) ?_
  exact gives_bind (gives_semicolon language .expression) (gives_pure _)

end Calls

section Programs

variable (language : Language) (literal : Literal)

theorem readStatements_end (parse : Grammar) (count : Nat) (read : List Tree) (position reached : Nat) :
    readStatements parse count read (Spot.cursor ⟨[], []⟩ position reached) = .ok read.reverse := by
  cases count with
  | zero => rfl
  | succ count => rfl

theorem parse_single (word : String) (isWord : IsWord word.toList) (rest : List Char)
    (noNul : nul ∉ rest) {tree : Tree}
    (read : ∀ depth, Gives (grammar language (depth + 10) .statement)
      ⟨word.toList ++ rest, word.toList ++ rest⟩ { tree } ⟨[], []⟩) :
    parse language (word.toList ++ rest) = above .program 1 [tree] := by
  have start : startOf (word.toList ++ rest) =
      Spot.cursor ⟨word.toList ++ rest, word.toList ++ rest⟩ 0 0 :=
    if_neg (Bool.eq_false_iff.mp (isWord.no_mark rest))
  have deep : depthBound (word.toList ++ rest).length =
      64 * (word.toList ++ rest).length + 1014 + 10 := by
    unfold depthBound
    omega
  obtain ⟨moved, done⟩ := read (64 * (word.toList ++ rest).length + 1014) 0 0
  have program : readProgram language (word.toList ++ rest) = .ok [tree] := by
    refine (readProgram_ok_iff _ _ _).mpr ⟨by simp [isWord.noNul, noNul], ?_⟩
    rw [readText, start, deep]
    unfold readStatements
    dsimp only
    rw [statementStart_solid (isWord.solid rest) (isWord.no_comment rest), if_neg ?_, done]
    · exact readStatements_end _ _ _ _ _
    · intro none
      exact isWord.written (List.append_eq_nil_iff.mp (beq_iff_eq.mp none)).1
  unfold parse
  rw [program]

/-- How a module can be named by a literal: by an import that binds nothing or a name, by an export of
everything, or by a call. -/
inductive Form where
  | bare
  | default (name : List Char) (isName : IsName name)
  | everything
  | call

namespace Form

def text (literal : Literal) : Form → String
  | bare => "import " ++ literal.shown
  | default name _ => "import " ++ String.ofList name ++ " from " ++ literal.shown
  | everything => "export * from " ++ literal.shown
  | call => "import(" ++ literal.shown ++ ")"

def tree (literal : Literal) : Form → Tree
  | bare => above .importStatement 1 [sourceLeaf literal]
  | default name _ => above .importStatement 1
      [above .importClause 1 [leaf .identifier 1 name], sourceLeaf literal]
  | everything => above .exportStatement 1 [sourceLeaf literal]
  | call => above .statement 1 [callTree literal]

def word : Form → String
  | everything => "export"
  | _ => "import"

def behind (literal : Literal) : Form → List Char
  | bare => ' ' :: (literal.written ++ [])
  | default name _ => ' ' :: (name ++ ' ' :: fromText literal)
  | everything => ' ' :: '*' :: ' ' :: fromText literal
  | call => '(' :: (literal.written ++ [')'])

theorem isWord_word (form : Form) : IsWord form.word.toList := by
  cases form with
  | everything => exact isWord_export
  | _ => exact isWord_import

theorem noNul_behind (form : Form) : nul ∉ form.behind literal := by
  have written := literal.noNul_written
  cases form with
  | default name isName =>
      have name := isName.isWord.noNul
      simp_all [behind, fromText, nul]
  | _ => simp_all [behind, fromText, nul]

theorem toList_text (form : Form) :
    (form.text literal).toList = form.word.toList ++ form.behind literal := by
  cases form <;> simp [text, word, behind, fromText, Literal.shown]

end Form

theorem gives_form (form : Form) (depth : Nat) (behind : List Char) :
    Gives (grammar language (depth + 10) .statement) ⟨form.word.toList ++ form.behind literal, behind⟩
      { tree := form.tree literal } ⟨[], []⟩ := by
  cases form with
  | bare =>
      refine gives_statement language _ "import" isWord_import (endsWord_blank _) ?_
      refine gives_import language _ (endsWord_blank _) (literal.solid []).blank ?_
        (gives_importRest_bare language _ literal)
      intro sign member head
      rw [literal.written_append, List.head?_cons, Option.some.injEq] at head
      rw [← head] at member
      rcases literal.kinds with same | same <;> rw [same] at member <;> exact absurd member (by decide)
  | default name isName =>
      refine gives_statement language _ "import" isWord_import (endsWord_blank _) ?_
      refine gives_import language _ (endsWord_blank _) (isName.isWord.solid _).blank ?_
        (gives_importRest_name language _ literal isName)
      have signs : ("(.`?<".toList.all fun sign => isWordCharacter sign == false) = true := by decide
      exact fun sign member => isName.isWord.other_head _ sign
        (beq_iff_eq.mp (List.all_eq_true.mp signs sign member))
  | everything =>
      refine gives_statement language _ "export" isWord_export (endsWord_blank _) ?_
      exact gives_export language _ literal
  | call =>
      refine gives_statement language _ "import" isWord_import (endsWord_opening _) ?_
      exact gives_call language depth literal

theorem parse_written (form : Form) :
    parse language (form.text literal).toList = above .program 1 [form.tree literal] := by
  rw [form.toList_text]
  exact parse_single language form.word form.isWord_word _ (form.noNul_behind literal) fun depth =>
    gives_form language literal form depth _

end Programs

end Script

end UiContract
