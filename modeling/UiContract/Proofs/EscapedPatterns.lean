import Mathlib.Data.List.Forall2
import UiContract.Regex

/-!
Patterns that are made of texts. A text whose characters are escaped is read as these characters one
after the other, whatever they mean in patterns; so texts between bars in a group, with boundaries of
words around it, mean one of the texts as whole words.
-/
namespace UiContract.Regex

/-- A reading takes a text up to what stands behind and gives something with a property, wherever the
text is. Blanks are not ignored there. -/
def Gives {α : Type} (reading : Reading α) (before : List Char) (result : α → Prop)
    (after : List Char) : Prop :=
  ∀ place names, ∃ value behind, result value ∧
    reading { rest := before, place, names } = .ok (value, { rest := after, place := behind, names })

section Steps

variable {α β : Type} {before middle after : List Char}

theorem gives_pure {value : α} {result : α → Prop} (holds : result value) :
    Gives (pure value) before result before :=
  fun place _ => ⟨value, place, holds, rfl⟩

theorem gives_bind {reading : Reading α} {more : α → Reading β} {given : α → Prop}
    {result : β → Prop} (first : Gives reading before given middle)
    (second : ∀ value, given value → Gives (more value) middle result after) :
    Gives (reading >>= more) before result after := by
  intro place names
  obtain ⟨value, between, holds, read⟩ := first place names
  obtain ⟨last, behind, done, ran⟩ := second value holds between names
  refine ⟨last, behind, done, ?_⟩
  show (reading { rest := before, place, names }).bind (fun read => more read.1 read.2) = _
  rw [read]
  exact ran

theorem gives_place : Gives place before (fun _ => True) before :=
  fun place _ => ⟨place, place, trivial, rfl⟩

theorem gives_since (first : Place) : Gives (since first) before (fun _ => True) before :=
  fun place _ => ⟨_, place, trivial, rfl⟩

theorem gives_nextExtent : Gives nextExtent before (fun _ => True) before :=
  fun place _ => ⟨_, place, trivial, rfl⟩

theorem gives_peek : Gives peek before (· = before.head?) before :=
  fun place _ => ⟨_, place, rfl, rfl⟩

theorem gives_ahead : Gives ahead before (· = before) before :=
  fun place _ => ⟨_, place, rfl, rfl⟩

theorem gives_atEnd : Gives atEnd before (· = before.isEmpty) before :=
  fun place _ => ⟨_, place, rfl, rfl⟩

theorem gives_skipIgnored : Gives skipIgnored before (fun _ => True) before :=
  fun place _ => ⟨(), place, trivial, rfl⟩

theorem gives_ignoring : Gives get before (·.ignoring = false) before :=
  fun place _ => ⟨_, place, rfl, rfl⟩

theorem gives_ignoreBlanks : Gives (ignoreBlanks false) before (fun _ => True) before :=
  fun place _ => ⟨(), place, trivial, rfl⟩

theorem gives_take (character : Char) :
    Gives (take 1) (character :: after) (fun _ => True) after :=
  fun place _ => ⟨(), place.behind character, trivial, rfl⟩

theorem gives_takeText_absent {text : String} (absent : text.toList.isPrefixOf before = false) :
    Gives (takeText text) before (· = false) before := by
  intro place names
  refine ⟨false, place, rfl, ?_⟩
  unfold takeText
  dsimp only
  rw [if_neg (by simp [absent])]

theorem gives_takeAnyText_absent (texts : List String)
    (absent : ∀ text ∈ texts, text.toList.isPrefixOf before = false) :
    Gives (takeAnyText texts) before (· = false) before := by
  induction texts with
  | nil => exact gives_pure rfl
  | cons text rest ih =>
      refine gives_bind (gives_takeText_absent (absent text List.mem_cons_self)) ?_
      rintro _ rfl
      exact ih fun other member => absent other (List.mem_cons_of_mem text member)

end Steps

section Meanings

structure Node.Means (levels : Nat) (node : Node) (expr : Expr) : Prop where
  meaning : node.meaning {} = .ok (expr, {})
  shallow : ∀ allowed, levels ≤ allowed → node.tooDeep? allowed = none

variable {levels : Nat} {nodes : List Node} {exprs : List Expr}

theorem Node.Means.mono {more : Nat} {node : Node} {expr : Expr} (means : node.Means levels expr)
    (atMost : levels ≤ more) : node.Means more expr :=
  ⟨means.meaning, fun allowed enough => means.shallow allowed (Nat.le_trans atMost enough)⟩

theorem allMeanings_means (means : List.Forall₂ (Node.Means levels) nodes exprs) :
    allMeanings {} nodes = .ok (exprs, {}) := by
  induction means with
  | nil => rfl
  | cons first others ih =>
      unfold allMeanings
      rw [first.meaning]
      show (allMeanings {} _ >>= _) = _
      rw [ih]
      rfl

theorem anyTooDeep_means (means : List.Forall₂ (Node.Means levels) nodes exprs) (allowed : Nat)
    (enough : levels ≤ allowed) : anyTooDeep? allowed nodes = none := by
  induction means with
  | nil => rfl
  | cons first others ih =>
      unfold anyTooDeep?
      rw [first.shallow allowed enough, ih]
      rfl

theorem means_ofParts (extent : Extent) (means : List.Forall₂ (Node.Means levels) nodes exprs) :
    (Node.ofParts extent nodes).Means (levels + 1) (.ofSequence exprs) := by
  cases means with
  | nil => exact ⟨rfl, fun _ _ => rfl⟩
  | cons first others =>
      cases others with
      | nil => exact first.mono (Nat.le_succ levels)
      | cons second more =>
          have all := List.Forall₂.cons first (.cons second more)
          refine ⟨?_, fun allowed enough => ?_⟩
          · show (allMeanings {} _ >>= _) = _
            rw [allMeanings_means all]
            rfl
          · unfold Node.ofParts Node.tooDeep?
            rw [if_neg (by simp; omega), anyTooDeep_means all _ (by omega)]

theorem means_choice (extent : Extent) (means : List.Forall₂ (Node.Means levels) nodes exprs) :
    (Node.choice extent nodes).Means (levels + 1) (.ofOptions exprs) := by
  refine ⟨?_, fun allowed enough => ?_⟩
  · show (allMeanings {} _ >>= _) = _
    rw [allMeanings_means means]
    rfl
  · unfold Node.tooDeep?
    rw [if_neg (by simp; omega), anyTooDeep_means means _ (by omega)]

theorem means_group (extent : Extent) {body : Node} {expr : Expr} (means : body.Means levels expr) :
    (Node.group extent [] body).Means (levels + 1) expr := by
  refine ⟨?_, fun allowed enough => ?_⟩
  · show (body.meaning {} >>= _) = _
    rw [means.meaning]
    rfl
  · unfold Node.tooDeep?
    rw [if_neg (by simp; omega), means.shallow _ (by omega)]

theorem means_boundary (extent : Extent) :
    (Node.anchor extent .wordBoundary).Means 0 (.look (.word .boundary true)) :=
  ⟨rfl, fun _ _ => rfl⟩

def Expr.ofCharacter (character : Char) : Expr := .set (CharSet.single character)

theorem means_literal (extent : Extent) (character : Char) :
    (Node.literal { extent, character }).Means 0 (.ofCharacter character) :=
  ⟨rfl, fun _ _ => rfl⟩

structure Progress.Means (levels : Nat) (progress : Progress) (options parts : List Expr) : Prop where
  options : List.Forall₂ (Node.Means (levels + 1)) progress.options.reverse options
  parts : List.Forall₂ (Node.Means levels) progress.parts.reverse parts

end Meanings

section Sequences

variable {levels : Nat} {group : Option Extent} {options parts : List Expr} {expr : Expr}
  {before after rest : List Char} {progress : Progress}

theorem Progress.Means.push (means : progress.Means levels options parts) {node : Node}
    (part : node.Means levels expr) :
    ({ progress with parts := node :: progress.parts } : Progress).Means levels options
      (parts ++ [expr]) := by
  refine ⟨means.options, ?_⟩
  rw [List.reverse_cons]
  exact List.rel_append means.parts (.cons part .nil)

theorem gives_option (means : progress.Means levels options parts) :
    Gives progress.option before (·.Means (levels + 1) (.ofSequence parts)) before :=
  gives_bind (gives_since _) fun extent _ => gives_pure (means_ofParts extent means.parts)

theorem gives_whole (means : progress.Means levels options parts) :
    Gives progress.whole before (·.Means (levels + 2) (.ofOptions (options ++ [.ofSequence parts])))
      before := by
  refine gives_bind (gives_option means) fun last isLast => ?_
  have all : List.Forall₂ (Node.Means (levels + 1)) (last :: progress.options).reverse
      (options ++ [.ofSequence parts]) := by
    rw [List.reverse_cons]
    exact List.rel_append means.options (.cons isLast .nil)
  split
  · rename_i single
    have none := means.options
    rw [List.isEmpty_iff.mp single] at none
    cases none
    exact gives_pure (isLast.mono (Nat.le_succ _))
  · exact gives_bind (gives_since _) fun extent _ => gives_pure (means_choice extent all)

def Completes (levels : Nat) (group : Option Extent) (options parts : List Expr)
    (before : List Char) (expr : Expr) (after : List Char) : Prop :=
  ∀ count progress, before.length < count → progress.Means levels options parts →
    Gives (sequence count group progress) before (·.Means (levels + 2) expr) after

theorem completes_end : Completes levels none options parts [] (.ofOptions (options ++ [.ofSequence parts])) [] := by
  intro count progress enough means
  obtain ⟨fuel, rfl⟩ := Nat.exists_eq_succ_of_ne_zero (Nat.ne_of_gt enough)
  unfold sequence
  refine gives_bind gives_skipIgnored fun _ _ => gives_bind gives_peek ?_
  rintro _ rfl
  exact gives_whole means

theorem completes_close (parenthesis : Extent) : Completes levels (some parenthesis) options parts
    (')' :: after) (.ofOptions (options ++ [.ofSequence parts])) (')' :: after) := by
  intro count progress enough means
  obtain ⟨fuel, rfl⟩ := Nat.exists_eq_succ_of_ne_zero (Nat.ne_of_gt (Nat.zero_lt_of_lt enough))
  unfold sequence
  refine gives_bind gives_skipIgnored fun _ _ => gives_bind gives_peek ?_
  rintro _ rfl
  exact gives_whole means

theorem completes_bar
    (behind : Completes levels group (options ++ [.ofSequence parts]) [] before expr after) :
    Completes levels group options parts ('|' :: before) expr after := by
  intro count progress enough means
  obtain ⟨fuel, rfl⟩ := Nat.exists_eq_succ_of_ne_zero (Nat.ne_of_gt (Nat.zero_lt_of_lt enough))
  unfold sequence
  refine gives_bind gives_skipIgnored fun _ _ => gives_bind gives_peek ?_
  rintro _ rfl
  refine gives_bind (gives_option means) fun option isOption => ?_
  refine gives_bind (gives_take '|') fun _ _ => gives_bind gives_place fun start _ => ?_
  refine behind fuel _ (Nat.lt_of_succ_lt_succ enough) ⟨?_, .nil⟩
  rw [List.reverse_cons]
  exact List.rel_append means.options (.cons isOption .nil)

/-- A part that is neither a group nor an option is added to those before it. -/
theorem completes_part {character : Char} {others : List Char} {part : Expr}
    (plain : character ∉ [')', '|', '(', '[', '\x7b', '?', '*', '+'])
    (reads : Gives atom (character :: others) (·.Means levels part) before)
    (shorter : before.length ≤ others.length)
    (behind : Completes levels group options (parts ++ [part]) before expr after) :
    Completes levels group options parts (character :: others) expr after := by
  intro count progress enough means
  obtain ⟨fuel, rfl⟩ := Nat.exists_eq_succ_of_ne_zero (Nat.ne_of_gt (Nat.zero_lt_of_lt enough))
  -- No sign of a set or of a count stands here, so that an atom is read.
  have next : Gives (progress.next character) (character :: others)
      (·.Means levels options (parts ++ [part])) before := by
    unfold Progress.next boundsOf?
    split
    · simp_all
    · simp_all
    · rename_i bounds found
      split at found <;> simp_all
    · exact gives_bind reads fun node means' => gives_pure (means.push means')
  unfold sequence
  refine gives_bind gives_skipIgnored fun _ _ => gives_bind gives_peek ?_
  rintro _ rfl
  simp only [List.head?_cons]
  -- The end of the text, of a group and of an option come first, then a group that opens.
  split
  · contradiction
  · simp_all
  · simp_all
  · simp_all
  · rename_i same
    rw [← Option.some.inj same]
    exact gives_bind next fun progress means => behind fuel progress (by simp at enough; omega) means

end Sequences

section Atoms

variable {levels : Nat} {group : Option Extent} {options parts : List Expr} {expr : Expr}
  {before after rest : List Char}

def escapedCharacter (character : Char) : List Char :=
  if isMeta character then ['\\', character] else [character]

theorem escaped_toList (text : String) :
    (escaped text).toList = text.toList.flatMap escapedCharacter :=
  String.toList_ofList

/-- None of the characters that are escaped has a meaning of its own behind a backslash. -/
theorem not_letter_of_meta {character : Char} (special : isMeta character = true) :
    character.isDigit = false ∧ (character == 'x' || character == 'u' || character == 'U') = false ∧
      (character == 'p' || character == 'P') = false := by
  have each : ("\\.+*?()|[]\x7b\x7d^$#&-~".toList.all fun character => !character.isDigit &&
      !(character == 'x' || character == 'u' || character == 'U') &&
        !(character == 'p' || character == 'P')) = true := by decide
  have apart := List.all_eq_true.mp each character (List.contains_iff_mem.mp special)
  simpa [and_assoc] using apart

theorem gives_atom_escaped {character : Char} (special : isMeta character = true) :
    Gives atom ('\\' :: character :: before) (·.Means levels (.ofCharacter character)) before := by
  obtain ⟨noDigit, noNumber, noProperty⟩ := not_letter_of_meta special
  have literal : Gives escape ('\\' :: character :: before)
      (·.Means levels (.ofCharacter character)) before := by
    refine gives_bind gives_place fun start _ => gives_bind (gives_take '\\') fun _ _ =>
      gives_bind gives_peek ?_
    rintro _ rfl
    simp only [List.head?_cons, noDigit, noNumber, noProperty, Bool.false_eq_true, if_false]
    refine gives_bind (gives_take character) fun _ _ => gives_bind (gives_since _) fun extent _ => ?_
    rw [if_pos (by simp [isEscapable, special])]
    exact gives_pure ((means_literal extent character).mono (Nat.zero_le _))
  refine gives_bind gives_nextExtent fun extent _ => gives_bind gives_peek ?_
  rintro _ rfl
  exact literal

theorem gives_atom_plain {character : Char} (plain : isMeta character = false) :
    Gives atom (character :: before) (·.Means levels (.ofCharacter character)) before := by
  refine gives_bind gives_nextExtent fun extent _ => gives_bind gives_peek ?_
  rintro _ rfl
  rw [List.head?_cons]
  -- The four signs with which an atom can begin would have been escaped.
  split
  · rename_i same
    rw [Option.some.inj same] at plain
    contradiction
  · rename_i same
    rw [Option.some.inj same] at plain
    contradiction
  · rename_i same
    rw [Option.some.inj same] at plain
    contradiction
  · rename_i same
    rw [Option.some.inj same] at plain
    contradiction
  · rename_i same
    rw [← Option.some.inj same]
    exact gives_bind (gives_take character) fun _ _ =>
      gives_pure ((means_literal extent character).mono (Nat.zero_le _))
  · contradiction

theorem completes_character (character : Char)
    (behind : Completes levels group options (parts ++ [.ofCharacter character]) before expr after) :
    Completes levels group options parts (escapedCharacter character ++ before) expr after := by
  unfold escapedCharacter
  split
  · rename_i special
    exact completes_part (by decide) (gives_atom_escaped special) (Nat.le_succ _) behind
  · rename_i plain
    rw [Bool.not_eq_true] at plain
    refine completes_part ?_ (gives_atom_plain plain) (Nat.le_refl _) behind
    intro member
    have special : [')', '|', '(', '[', '\x7b', '?', '*', '+'].all isMeta = true := by decide
    rw [List.all_eq_true.mp special character member] at plain
    contradiction

theorem completes_text (text : List Char)
    (behind : Completes levels group options (parts ++ text.map Expr.ofCharacter) before expr after) :
    Completes levels group options parts (text.flatMap escapedCharacter ++ before) expr after := by
  induction text generalizing parts with
  | nil => simpa using behind
  | cons character rest ih =>
      rw [List.flatMap_cons, List.append_assoc]
      refine completes_character character (ih ?_)
      simpa using behind

theorem completes_texts (parenthesis : Extent) (first : String) (others : List String) :
    Completes levels (some parenthesis) options []
      ((Text.join "|" ((first :: others).map escaped)).toList ++ ')' :: after)
      (.ofOptions (options ++ (first :: others).map fun text => .ofText text.toList))
      (')' :: after) := by
  induction others generalizing first options with
  | nil =>
      show Completes _ _ _ _ ((escaped first).toList ++ _) _ _
      rw [escaped_toList]
      exact completes_text first.toList (completes_close parenthesis)
  | cons second more ih =>
      have written : (Text.join "|" ((first :: second :: more).map escaped)).toList ++ ')' :: after =
          (escaped first).toList ++
            '|' :: ((Text.join "|" ((second :: more).map escaped)).toList ++ ')' :: after) := by
        show (escaped first ++ "|" ++ Text.join "|" ((second :: more).map escaped)).toList ++ _ = _
        simp
      have ordered : options ++ (first :: second :: more).map (fun text => Expr.ofText text.toList) =
          options ++ [.ofText first.toList] ++ (second :: more).map fun text => .ofText text.toList := by
        rw [List.map_cons, List.append_cons]
      rw [written, escaped_toList, ordered]
      exact completes_text first.toList (completes_bar (ih second))

theorem completes_boundary (closed : before.head? ≠ some '\x7b')
    (behind : Completes levels group options (parts ++ [.look (.word .boundary true)]) before expr
      after) : Completes levels group options parts ('\\' :: 'b' :: before) expr after := by
  have reads : Gives atom ('\\' :: 'b' :: before)
      (·.Means levels (.look (.word .boundary true))) before := by
    refine gives_bind gives_nextExtent fun extent _ => gives_bind gives_peek ?_
    rintro _ rfl
    show Gives escape _ _ _
    refine gives_bind gives_place fun start _ => gives_bind (gives_take '\\') fun _ _ =>
      gives_bind gives_peek ?_
    rintro _ rfl
    show Gives (letterEscape start 'b') _ _ _
    refine gives_bind (gives_take 'b') fun _ _ => gives_bind (gives_since _) fun extent _ => ?_
    show Gives (wordBoundary start) _ _ _
    refine gives_bind gives_peek ?_
    rintro _ rfl
    dsimp only
    split
    · contradiction
    · refine gives_bind (gives_pure rfl) ?_
      rintro _ rfl
      exact gives_bind (gives_since _) fun extent _ =>
        gives_pure ((means_boundary extent).mono (Nat.zero_le _))
  exact completes_part (by decide) reads (Nat.le_succ _) behind

theorem gives_opening (parenthesis : Extent) : Gives (opening parenthesis) ('(' :: '?' :: ':' :: before)
    (· = .group []) before := by
  have noLookAround : Gives (takeAnyText lookArounds) ('?' :: ':' :: before) (· = false)
      ('?' :: ':' :: before) := by
    refine gives_takeAnyText_absent _ fun text listed => ?_
    simp only [lookArounds, List.mem_cons, List.not_mem_nil, or_false] at listed
    rcases listed with rfl | rfl | rfl | rfl <;> rfl
  have noName : Gives (takeAnyText ["?P<", "?<"]) ('?' :: ':' :: before) (· = false)
      ('?' :: ':' :: before) := by
    refine gives_takeAnyText_absent _ fun text listed => ?_
    simp only [List.mem_cons, List.not_mem_nil, or_false] at listed
    rcases listed with rfl | rfl <;> rfl
  have sign : Gives (takeText "?") ('?' :: ':' :: before) (· = true) (':' :: before) :=
    fun place _ => ⟨true, place.behind '?', rfl, rfl⟩
  have noFlags : Gives flagList (':' :: before) (· = []) (':' :: before) :=
    fun place _ => ⟨[], place, rfl, rfl⟩
  refine gives_bind (gives_take '(') fun _ _ => gives_bind gives_skipIgnored fun _ _ => ?_
  refine gives_bind noLookAround ?_
  rintro _ rfl
  refine gives_bind gives_place fun inner _ => gives_bind noName ?_
  rintro _ rfl
  refine gives_bind sign ?_
  rintro _ rfl
  refine gives_bind gives_atEnd ?_
  rintro _ rfl
  refine gives_bind noFlags ?_
  rintro _ rfl
  refine gives_bind gives_peek ?_
  rintro _ rfl
  refine gives_bind gives_place fun here _ => gives_bind (gives_take ':') fun _ _ => ?_
  exact gives_pure rfl

theorem completes_group {inside : Expr}
    (inner : ∀ parenthesis, Completes levels (some parenthesis) [] [] before inside (')' :: rest))
    (shorter : rest.length ≤ before.length)
    (behind : Completes (levels + 3) group options (parts ++ [inside]) rest expr after) :
    Completes (levels + 3) group options parts ('(' :: '?' :: ':' :: before) expr after := by
  intro count progress enough means
  obtain ⟨fuel, rfl⟩ := Nat.exists_eq_succ_of_ne_zero (Nat.ne_of_gt (Nat.zero_lt_of_lt enough))
  simp only [List.length_cons] at enough
  unfold sequence
  refine gives_bind gives_skipIgnored fun _ _ => gives_bind gives_peek ?_
  rintro _ rfl
  refine gives_bind gives_nextExtent fun parenthesis _ => gives_bind gives_ignoring fun input plain => ?_
  refine gives_bind (gives_opening parenthesis) ?_
  rintro _ rfl
  rw [plain]
  refine gives_bind gives_ignoreBlanks fun _ _ => gives_bind gives_place fun start _ => ?_
  refine gives_bind (inner parenthesis fuel _ (by omega) ⟨.nil, .nil⟩) fun body isInside => ?_
  refine gives_bind gives_ignoreBlanks fun _ _ => gives_bind (gives_take ')') fun _ _ => ?_
  refine gives_bind (gives_since _) fun extent _ => ?_
  exact behind fuel _ (by omega) (means.push (means_group extent isInside))

end Atoms

def wholeWordPattern (texts : List String) : String :=
  "\\b(?:" ++ Text.join "|" (texts.map escaped) ++ ")\\b"

def wholeWordExpr (texts : List String) : Expr :=
  .ofSequence [.look (.word .boundary true), .ofOptions (texts.map fun text => .ofText text.toList),
    .look (.word .boundary true)]

theorem parse_wholeWordPattern (first : String) (others : List String) :
    ∃ whole, parse (wholeWordPattern (first :: others)) = .ok whole ∧
      whole.meaning {} = .ok (wholeWordExpr (first :: others), {}) := by
  have written : (wholeWordPattern (first :: others)).toList = '\\' :: 'b' :: '(' :: '?' :: ':' ::
      ((Text.join "|" ((first :: others).map escaped)).toList ++ [')', '\\', 'b']) := by
    simp [wholeWordPattern]
  -- Sequences, options and groups add a level each, and there are few of them.
  have inner : ∀ parenthesis, Completes 0 (some parenthesis) [] []
      ((Text.join "|" ((first :: others).map escaped)).toList ++ [')', '\\', 'b'])
      (.ofOptions ((first :: others).map fun text => .ofText text.toList)) [')', '\\', 'b'] :=
    fun parenthesis => completes_texts parenthesis first others
  have reads : Completes 3 none [] [] (wholeWordPattern (first :: others)).toList
      (wholeWordExpr (first :: others)) [] := by
    rw [written]
    exact completes_boundary (by simp)
      (completes_group inner (by simp) (completes_boundary (by simp) completes_end))
  obtain ⟨whole, behind, means, ran⟩ :=
    reads _ { start := {}, optionStart := {} } (Nat.lt_succ_self _) ⟨.nil, .nil⟩ {} []
  refine ⟨whole, ?_, means.meaning⟩
  have shallow := means.shallow depthLimit (by decide)
  unfold parse
  simp only [ran, shallow, bind, Except.bind]

/-- The pattern is read as what it is made for, whatever characters the texts have. -/
theorem compile_wholeWordPattern [Engine] (texts : List String) :
    compile (wholeWordPattern texts) = wholeWord texts := by
  have read : ∀ first others, compile (wholeWordPattern (first :: others)) =
      ofExpr (wholeWordPattern (first :: others)) (wholeWordExpr (first :: others)) := by
    intro first others
    obtain ⟨whole, parsed, meaning⟩ := parse_wholeWordPattern first others
    have understood : parse (wholeWordPattern (first :: others)) >>= Node.meaning {} =
        .ok (wholeWordExpr (first :: others), {}) := by
      rw [parsed]
      exact meaning
    unfold compile
    rw [understood]
  cases texts with
  | nil => exact read "" []
  | cons first others => exact read first others

end UiContract.Regex
