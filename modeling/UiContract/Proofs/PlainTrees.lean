import UiContract.Proofs.PlainNames

/-!
Trees without links. There every step of a path leads to one place at most, so where a path leads from
is found by its front alone, and a row of names leads exactly to the entry below them.
-/
namespace UiContract

theorem Path.byteSize_join {base : Path} (written : base.text ≠ "") (added : String)
    (relative : added.toList.head? ≠ some '/') :
    Text.byteSize base.text.toList + Text.byteSize added.toList ≤
      Text.byteSize (base.join added).text.toList := by
  obtain ⟨front, ends, whole⟩ := join_text written added relative
  rw [whole, show front ++ '/' :: added.toList = front ++ ['/'] ++ added.toList by simp,
    Text.byteSize_append]
  rcases ends with same | same
  · rw [same, Text.byteSize_append]
    omega
  · rw [same]

theorem Path.byteSize_join_le {base : Path} (written : base.text ≠ "") (added : String)
    (relative : added.toList.head? ≠ some '/') :
    Text.byteSize (base.join added).text.toList ≤
      Text.byteSize base.text.toList + 1 + Text.byteSize added.toList := by
  have slash : Text.byteSize ['/'] = 1 := rfl
  obtain ⟨front, ends, whole⟩ := join_text written added relative
  rw [whole, show front ++ '/' :: added.toList = front ++ ['/'] ++ added.toList by simp,
    Text.byteSize_append, Text.byteSize_append, slash]
  rcases ends with same | same
  · rw [same]
  · rw [same, Text.byteSize_append, slash]
    omega

namespace FileTree

/-- A tree without links in which all entries have names that paths can spell and lie in directories. -/
structure Linkless (tree : FileTree) : Prop where
  spelled : ∀ entry ∈ tree.entries.entries, ∀ name ∈ entry.1, Path.Plain (.normal name)
  rooted : ∀ entry ∈ tree.entries.entries, tree.entry? entry.1.dropLast = some .directory
  unlinked : ∀ entry ∈ tree.entries.entries, entry.2.isLink = false

structure Plain (tree : FileTree) : Prop where
  named : ∀ entry ∈ tree.entries.entries, ∀ name ∈ entry.1, PlainName name
  rooted : ∀ entry ∈ tree.entries.entries, tree.entry? entry.1.dropLast = some .directory
  unlinked : ∀ entry ∈ tree.entries.entries, entry.2.isLink = false

variable {tree : FileTree}

theorem mem_of_entry {place : List Name} {entry : Entry} (held : tree.entry? place = some entry)
    (below : place ≠ []) : (place, entry) ∈ tree.entries.entries := by
  unfold entry? at held
  rw [if_neg (by simpa using below)] at held
  exact (tree.entries.find_eq_some_iff place entry).mp held

namespace Linkless

variable (linkless : tree.Linkless)

include linkless

theorem names {place : List Name} {entry : Entry} (held : tree.entry? place = some entry) :
    ∀ name ∈ place, Path.Plain (.normal name) := by
  intro name member
  exact linkless.spelled _ (mem_of_entry held (List.ne_nil_of_mem member)) name member

theorem isLink_eq {place : List Name} {entry : Entry} (held : tree.entry? place = some entry) :
    entry.isLink = false := by
  by_cases top : place = []
  · subst top
    rw [← Option.some.inj held]
    rfl
  · exact linkless.unlinked _ (mem_of_entry held top)

theorem isLink_path (path : Path) : tree.isLink path = false := by
  unfold isLink
  split
  · dsimp only
    split
    · rename_i place _
      cases held : tree.entry? (place ++ [_]) with
      | none => rfl
      | some entry => exact linkless.isLink_eq held
    · rfl
  · rfl

theorem directory_above {place names : List Name} {entry : Entry}
    (held : tree.entry? (place ++ names) = some entry) (below : names ≠ []) :
    tree.entry? place = some .directory := by
  -- From the last name up, since each entry lies in a directory.
  induction names using List.reverseRecOn generalizing entry with
  | nil => contradiction
  | append_singleton names last ih =>
      rw [← List.append_assoc] at held
      have above := linkless.rooted _ (mem_of_entry held (by simp))
      rw [List.dropLast_concat] at above
      by_cases direct : names = []
      · rwa [direct, List.append_nil] at above
      · exact ih above direct

theorem isSome_above {place names : List Name} {entry : Entry}
    (held : tree.entry? (place ++ names) = some entry) : (tree.entry? place).isSome = true := by
  by_cases direct : names = []
  · rw [direct, List.append_nil] at held
    rw [held]
    rfl
  · rw [linkless.directory_above held direct]
    rfl

end Linkless

namespace Plain

variable (plain : tree.Plain)

include plain

theorem linkless : tree.Linkless where
  spelled := fun entry member name inside => (plain.named entry member name inside).plain
  rooted := plain.rooted
  unlinked := plain.unlinked

theorem nested : tree.Nested :=
  nested_of_entries tree fun entry member _ => plain.rooted entry member

theorem names {place : List Name} {entry : Entry} (held : tree.entry? place = some entry) :
    ∀ name ∈ place, PlainName name := by
  intro name member
  exact plain.named _ (mem_of_entry held (List.ne_nil_of_mem member)) name member

end Plain

/-- Where a step leads from a directory without meeting a link. -/
def Leads (tree : FileTree) (place : List Name) : Step → List Name → Prop
  | .stay, next => next = place
  | .up, next => next = place.dropLast
  | .down name, next => next = place ++ [name] ∧ Text.byteSize name ≤ 255 ∧
      (tree.entry? next).isSome = true

section Ways

variable (linkless : tree.Linkless)

include linkless

theorem walk_cons_iff (onLink : List Name → List Char → List Step → Except FileError (List Name))
    (place final : List Name) (step : Step) (rest : List Step) :
    walk onLink tree place (step :: rest) = .ok final ↔ tree.entry? place = some .directory ∧
      ∃ next, tree.Leads place step next ∧ walk onLink tree next rest = .ok final := by
  conv_lhs => unfold walk
  by_cases inside : tree.entry? place = some .directory
  · rw [if_neg (by simpa using inside)]
    cases step with
    | stay => simp [inside, Leads]
    | up => simp [inside, Leads]
    | down name =>
        dsimp only
        by_cases long : 255 < Text.byteSize name
        · simp [long, Leads]
        · rw [if_neg long]
          cases held : tree.entry? (place ++ [name]) with
          | none => simp [Leads, held]
          | some entry =>
              -- Only a link would leave the rest of the way to `onLink`.
              have direct := linkless.isLink_eq held
              cases entry with
              | link target => contradiction
              | file bytes => simp [Leads, held, inside, Nat.le_of_not_lt long]
              | directory => simp [Leads, held, inside, Nat.le_of_not_lt long]
  · simp [inside]

theorem follow_unlinked (links : Nat) (place final : List Name) (steps : List Step) :
    tree.follow links place steps = .ok final ↔ tree.follow 0 place steps = .ok final := by
  have general : ∀ onLink onLink' : List Name → List Char → List Step →
      Except FileError (List Name), walk onLink tree place steps = .ok final ↔
        walk onLink' tree place steps = .ok final := by
    intro onLink onLink'
    induction steps generalizing place with
    | nil => exact Iff.rfl
    | cons step rest ih =>
        rw [walk_cons_iff linkless, walk_cons_iff linkless]
        simp only [ih]
  cases links with
  | zero => exact Iff.rfl
  | succ links => exact general _ _

theorem follow_cons_iff (place final : List Name) (step : Step) (rest : List Step) :
    tree.follow 0 place (step :: rest) = .ok final ↔ tree.entry? place = some .directory ∧
      ∃ next, tree.Leads place step next ∧ tree.follow 0 next rest = .ok final :=
  walk_cons_iff linkless _ place final step rest

omit linkless in
theorem follow_nil_iff (place final : List Name) :
    tree.follow 0 place [] = .ok final ↔ place = final :=
  ⟨Except.ok.inj, congrArg Except.ok⟩

theorem follow_append_iff (front back : List Step) (place final : List Name) :
    tree.follow 0 place (front ++ back) = .ok final ↔
      ∃ middle, tree.follow 0 place front = .ok middle ∧ tree.follow 0 middle back = .ok final := by
  induction front generalizing place with
  | nil => simp [follow_nil_iff]
  | cons step front ih =>
      rw [List.cons_append, follow_cons_iff linkless]
      simp only [follow_cons_iff linkless, ih]
      constructor
      · rintro ⟨inside, next, leads, middle, reached, follows⟩
        exact ⟨middle, ⟨inside, next, leads, reached⟩, follows⟩
      · rintro ⟨middle, ⟨inside, next, leads, reached⟩, follows⟩
        exact ⟨inside, next, leads, middle, reached, follows⟩

theorem follow_names (names place final : List Name)
    (found : tree.follow 0 place (names.map Step.down) = .ok final) :
    final = place ++ names ∧ (names = [] ∨ (tree.entry? final).isSome = true) := by
  induction names generalizing place with
  | nil =>
      rw [List.map_nil, follow_nil_iff] at found
      exact ⟨by rw [List.append_nil, found], .inl rfl⟩
  | cons name rest ih =>
      rw [List.map_cons, follow_cons_iff linkless] at found
      obtain ⟨-, _, ⟨rfl, -, held⟩, further⟩ := found
      obtain ⟨rfl, reached⟩ := ih _ further
      refine ⟨by simp, .inr ?_⟩
      rcases reached with rfl | reached
      · simpa using held
      · exact reached

theorem follow_of_names (names place : List Name) (short : ∀ name ∈ names, Text.byteSize name ≤ 255)
    (reached : names = [] ∨ (tree.entry? (place ++ names)).isSome = true) :
    tree.follow 0 place (names.map Step.down) = .ok (place ++ names) := by
  induction names generalizing place with
  | nil => rw [List.map_nil, follow_nil_iff, List.append_nil]
  | cons name rest ih =>
      obtain ⟨brief, others⟩ := List.forall_mem_cons.mp short
      obtain ⟨entry, held⟩ := Option.isSome_iff_exists.mp (reached.resolve_left (List.cons_ne_nil _ _))
      have inside := linkless.directory_above held (List.cons_ne_nil _ _)
      have split : place ++ name :: rest = place ++ [name] ++ rest := by simp
      rw [split] at held ⊢
      rw [List.map_cons, follow_cons_iff linkless]
      refine ⟨inside, _, ⟨rfl, brief, linkless.isSome_above held⟩, ih _ others (.inr ?_)⟩
      rw [held]
      rfl

omit linkless in
theorem plainName_of_follow (plain : tree.Plain) (steps : List Step) (place final : List Name)
    (found : tree.follow 0 place steps = .ok final) (name : Name) (member : .down name ∈ steps) :
    PlainName name := by
  induction steps generalizing place with
  | nil => contradiction
  | cons step rest ih =>
      obtain ⟨-, next, leads, found⟩ := (follow_cons_iff plain.linkless ..).mp found
      rcases List.mem_cons.mp member with rfl | later
      · obtain ⟨rfl, -, held⟩ := leads
        obtain ⟨entry, held⟩ := Option.isSome_iff_exists.mp held
        exact plain.names held name (by simp)
      · exact ih next found later

end Ways

theorem stepsOf_append (front back : List Char) :
    stepsOf (front ++ '/' :: back) = stepsOf front ++ stepsOf back := by
  unfold stepsOf
  rw [Text.pieces_append (· == '/') front back '/' rfl, List.map_append]

section Locations

theorem locate_iff (path : Path) (place : List Name) : tree.locate path = .ok place ↔
    path.text ≠ "" ∧ Char.ofNat 0 ∉ path.text.toList ∧
      Text.byteSize path.text.toList < pathLimit ∧
      ∃ start, (if path.isAbsolute then some [] else tree.workingDirectory) = some start ∧
        tree.follow linkLimit start (stepsOf path.text.toList) = .ok place := by
  constructor
  · intro found
    obtain ⟨short, clean, start, begins, follows⟩ := tree.locate_ok path place found
    refine ⟨?_, clean, short, start, begins, follows⟩
    intro empty
    unfold locate at found
    rw [empty] at found
    contradiction
  · rintro ⟨written, clean, short, start, begins, follows⟩
    unfold locate
    dsimp only
    rw [if_neg (by simpa using written), if_neg (by simpa using clean),
      if_neg (Nat.not_le_of_lt short)]
    split at begins
    · rename_i above
      rw [if_pos above, Option.some.inj begins]
      exact follows
    · rename_i below
      rw [if_neg below, begins]
      exact follows

theorem down_mem_stepsOf (text : List Char) (name : Name) :
    .down name ∈ stepsOf text ↔ .normal name ∈ Path.solidOf text := by
  have steps := filter_stepsOf text
  constructor
  · intro member
    have moves : Step.down name ∈ (stepsOf text).filter (· ≠ .stay) :=
      List.mem_filter.mpr ⟨member, rfl⟩
    rw [steps] at moves
    obtain ⟨component, inside, read⟩ := List.mem_filterMap.mp moves
    cases component <;> cases read
    exact inside
  · intro member
    have moves : Step.down name ∈ (Path.solidOf text).filterMap Component.step? :=
      List.mem_filterMap.mpr ⟨_, member, rfl⟩
    rw [← steps] at moves
    exact (List.mem_filter.mp moves).1

theorem mem_names_solidOf (text : List Char) (name : Name) :
    name ∈ (Path.solidOf text).filterMap Component.name? ↔ .down name ∈ stepsOf text := by
  rw [down_mem_stepsOf, List.mem_filterMap]
  constructor
  · rintro ⟨component, member, read⟩
    cases component <;> cases read
    exact member
  · exact fun member => ⟨_, member, rfl⟩

section Ends

variable (plain : tree.Plain) {text : List Char} {place final : List Name}
  (follows : tree.follow 0 place (stepsOf text) = .ok final)

include plain follows

theorem names_of_follow : ∀ name ∈ (Path.solidOf text).filterMap Component.name?, PlainName name := by
  intro name member
  exact plainName_of_follow plain _ place final follows name ((mem_names_solidOf text name).mp member)

theorem names_ne_nil {bytes : List UInt8} (held : tree.entry? final = some (.file bytes)) :
    (Path.solidOf text).filterMap Component.name? ≠ [] := by
  intro none
  obtain ⟨front, last, steps⟩ : ∃ front last, stepsOf text = front ++ [last] := by
    have some : stepsOf text ≠ [] := by simp [stepsOf, Text.pieces_ne_nil]
    exact ⟨_, _, (List.dropLast_append_getLast some).symm⟩
  have flat : ∀ name, last ≠ .down name := by
    rintro name rfl
    have member := (mem_names_solidOf text name).mpr (by rw [steps]; simp)
    rw [none] at member
    contradiction
  rw [steps] at follows
  have directory := tree.follow_last plain.nested last flat final 0 front place follows
  rw [held] at directory
  cases directory

end Ends

theorem stepsOf_shown {names : List Name} (named : ∀ name ∈ names, PlainName name)
    (some : names ≠ []) : stepsOf (shown names).toList = names.map .down := by
  unfold stepsOf
  rw [pieces_shown named some]
  refine List.map_congr_left fun name member => ?_
  obtain ⟨written, moves, falls⟩ := (Path.ofPiece_eq_normal name).mp (named name member).piece
  rw [if_neg (by simp [written, moves]), if_neg (by simpa using falls)]

variable (linkless : tree.Linkless) (root : Path) (written : root.text ≠ "")

include linkless written

theorem locate_join_iff (added : String)
    (relative : added.toList.head? ≠ some '/') (final : List Name) :
    tree.locate (root.join added) = .ok final ↔
      Text.byteSize (root.join added).text.toList < pathLimit ∧ Char.ofNat 0 ∉ added.toList ∧
        ∃ place, tree.locate root = .ok place ∧
          tree.follow 0 place (stepsOf added.toList) = .ok final := by
  obtain ⟨front, ends, whole⟩ := Path.join_text written added relative
  have absolute : (root.join added).isAbsolute = root.isAbsolute := by
    unfold Path.isAbsolute
    rw [whole]
    rcases ends with same | same
    · rw [same, List.head?_append_of_ne_nil _ (by simpa [← same] using written)]
    · rw [same]
      cases front <;> rfl
  have longer := Path.byteSize_join written added relative
  have clean : Char.ofNat 0 ∉ (root.join added).text.toList ↔
      Char.ofNat 0 ∉ root.text.toList ∧ Char.ofNat 0 ∉ added.toList := by
    have slash : Char.ofNat 0 ≠ '/' := by decide
    rcases ends with same | same <;> simp [whole, same, slash]
  have leads : ∀ start, tree.follow 0 start (stepsOf (root.join added).text.toList) = .ok final ↔
      ∃ place, tree.follow 0 start (stepsOf root.text.toList) = .ok place ∧
        tree.follow 0 place (stepsOf added.toList) = .ok final := by
    intro start
    rw [whole, stepsOf_append, follow_append_iff linkless]
    rcases ends with same | same
    · rw [same]
    · -- A slash at the end asks for the directory that the next step needs anyway.
      obtain ⟨step, rest, steps⟩ : ∃ step rest, stepsOf added.toList = step :: rest :=
        List.exists_cons_of_ne_nil (by simp [stepsOf, Text.pieces_ne_nil])
      have stay : stepsOf [] = [.stay] := rfl
      rw [same, stepsOf_append, steps, stay]
      simp only [follow_append_iff linkless, follow_cons_iff linkless, follow_nil_iff, Leads]
      constructor
      · rintro ⟨middle, reached, inside, further⟩
        exact ⟨middle, ⟨middle, reached, inside, middle, rfl, rfl⟩, inside, further⟩
      · rintro ⟨_, ⟨middle, reached, -, _, rfl, rfl⟩, further⟩
        exact ⟨_, reached, further⟩
  simp only [locate_iff, follow_unlinked linkless, leads, clean, absolute]
  constructor
  · rintro ⟨-, ⟨clean, clean'⟩, short, start, begins, place, reached, follows⟩
    exact ⟨short, clean', place,
      ⟨written, clean, Nat.lt_of_le_of_lt (Nat.le_of_add_right_le longer) short, start, begins, reached⟩, follows⟩
  · rintro ⟨short, clean', place, ⟨-, clean, -, start, begins, reached⟩, follows⟩
    exact ⟨Path.join_ne_empty written added relative, ⟨clean, clean'⟩, short, start, begins, place,
      reached, follows⟩

omit written in
theorem locate_entry {place : List Name} (located : tree.locate root = .ok place) (name : Name)
    (named : PlainName name) {entry : Entry} (held : tree.entry? (place ++ [name]) = some entry)
    (short : Text.byteSize (root.join (String.ofList name)).text.toList < pathLimit) :
    tree.locate (root.join (String.ofList name)) = .ok (place ++ [name]) := by
  have written : root.text ≠ "" := ((locate_iff root place).mp located).1
  have alone : ∀ other ∈ [name], PlainName other := by simpa using named
  have spelled : String.ofList name = shown [name] := by simp [shown, Text.joinPieces]
  refine (locate_join_iff linkless root written _ named.plain.relative _).mpr ⟨short, ?_, place, located, ?_⟩
  · rw [String.toList_ofList]
    exact named.clean
  · rw [spelled, stepsOf_shown alone (List.cons_ne_nil name [])]
    exact follow_of_names linkless [name] place (by simpa using named.short) (.inr (by rw [held]; rfl))

end Locations

end FileTree

end UiContract
