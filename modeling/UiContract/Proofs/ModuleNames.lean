import UiContract.Language
import UiContract.Proofs.RelativePaths

/-!
The names that modules go by. A file name is cut at its last dot where it is told whether the module is an
index, and at its first one where the module is named; the two agree for names with one dot, which does
not stand at the beginning.
-/
namespace UiContract

namespace Text

theorem before_append {test : Char → Bool} {character : Char} (separates : test character = true)
    (front back : List Char) : before test (front ++ character :: back) = before test front := by
  induction front with
  | nil => simp [before, separates]
  | cons first rest ih =>
      unfold before at ih ⊢
      rw [List.cons_append, List.takeWhile_cons, List.takeWhile_cons, ih]

theorem afterLast_bare {test : Char → Bool} {characters : List Char}
    (bare : ∀ character ∈ characters, test character = false) :
    afterLast test characters = characters := by
  have whole : before test characters.reverse = characters.reverse := by
    unfold before
    refine List.takeWhile_eq_self_iff.mpr fun character member => ?_
    rw [bare character (List.mem_reverse.mp member)]
    rfl
  unfold afterLast
  rw [whole, List.reverse_reverse]

theorem afterLast_append {test : Char → Bool} {separator : Char} (separates : test separator = true)
    (front : List Char) {back : List Char} (bare : ∀ character ∈ back, test character = false) :
    afterLast test (front ++ separator :: back) = back := by
  have turned : (front ++ separator :: back).reverse =
      back.reverse ++ separator :: front.reverse := by simp
  refine Eq.trans ?_ (afterLast_bare bare)
  unfold afterLast
  rw [turned, before_append separates]

theorem separated_cases (test : Char → Bool) (characters : List Char) :
    (∀ character ∈ characters, test character = false) ∨ ∃ front separator back,
      characters = front ++ separator :: back ∧ test separator = true ∧
        ∀ character ∈ back, test character = false := by
  induction characters with
  | nil => exact .inl nofun
  | cons first rest ih =>
      rcases ih with none | ⟨front, separator, back, rfl, found⟩
      · cases here : test first with
        | true => exact .inr ⟨[], first, rest, rfl, here, none⟩
        | false => exact .inl (List.forall_mem_cons.mpr ⟨here, none⟩)
      · exact .inr ⟨first :: front, separator, back, rfl, found⟩

end Text

namespace Path

theorem splitName_append {front after : List Char} (filled : front ≠ []) (bare : '.' ∉ after) :
    splitName (front ++ '.' :: after) = (front, some after) := by
  have last : Text.afterLast (· == '.') (front ++ '.' :: after) = after :=
    Text.afterLast_append rfl front fun character member =>
      beq_eq_false_iff_ne.mpr fun dot => bare (dot ▸ member)
  have nonzero : front.length ≠ 0 := mt List.length_eq_zero_iff.mp filled
  have length : (front ++ '.' :: after).length = front.length + (after.length + 1) :=
    List.length_append
  unfold splitName
  dsimp only
  rw [last, if_neg]
  · have stem : (front ++ '.' :: after).length - after.length - 1 = front.length := by omega
    rw [stem, List.take_left]
  · simp only [Bool.or_eq_true, beq_iff_eq, length]
    omega

theorem splitName_cases (name : List Char) : splitName name = (name, none) ∨
    ∃ front after, name = front ++ '.' :: after ∧ front ≠ [] ∧ '.' ∉ after := by
  rcases Text.separated_cases (· == '.') name with none | ⟨front, separator, back, rfl, dot, bare⟩
  · left
    unfold splitName
    rw [Text.afterLast_bare none]
    simp
  · obtain rfl := beq_iff_eq.mp dot
    cases front with
    -- A dot at the very beginning does not cut.
    | nil =>
        left
        have last : Text.afterLast (· == '.') ([] ++ '.' :: back) = back :=
          Text.afterLast_append rfl [] bare
        unfold splitName
        dsimp only
        rw [last]
        simp
    | cons first rest =>
        exact .inr ⟨first :: rest, back, rfl, List.cons_ne_nil _ _, fun member => by
          simpa using bare '.' member⟩

/-- The name up to the first dot is the same with the extension and without it. -/
theorem before_splitName (name : List Char) :
    Text.before (· == '.') (splitName name).1 = Text.before (· == '.') name := by
  rcases splitName_cases name with whole | ⟨front, after, rfl, filled, bare⟩
  · rw [whole]
  · rw [splitName_append filled bare]
    exact (Text.before_append rfl front after).symm

def indexWord : List Char := ['i', 'n', 'd', 'e', 'x']

variable {target : Path} {file : List Char}

theorem exists_name (script : (Language.ofPath target).isScript = true) :
    ∃ front after, target.fileName? = some (front ++ '.' :: after) ∧ front ≠ [] ∧ '.' ∉ after := by
  unfold Language.ofPath extension? at script
  cases named : target.fileName? with
  | none =>
      rw [named] at script
      contradiction
  | some file =>
      rw [named] at script
      rcases splitName_cases file with whole | ⟨front, after, rfl, cut⟩
      · rw [Option.bind_some, whole] at script
        contradiction
      · exact ⟨front, after, rfl, cut⟩

/-- A source file is an index module where its name has nothing but the extension behind the word. -/
theorem isBarrel_iff {front after : List Char}
    (named : target.fileName? = some (front ++ '.' :: after)) (filled : front ≠ [])
    (bare : '.' ∉ after) : target.isBarrel = true ↔
      ∃ extension, '.' ∉ extension ∧ front ++ '.' :: after = indexWord ++ '.' :: extension := by
  unfold isBarrel fileStem?
  rw [named, Option.map_some, splitName_append filled bare, beq_iff_eq, Option.some.injEq]
  constructor
  · rintro rfl
    exact ⟨after, bare, rfl⟩
  · rintro ⟨extension, single, same⟩
    have written : indexWord ≠ [] := List.cons_ne_nil _ _
    have cut := splitName_append written single
    rw [← same, splitName_append filled bare] at cut
    exact (Prod.mk.inj cut).1

section Named

variable (named : target.fileName? = some file)

include named

/-- A module goes by its file name up to the first dot, unless that is the word for an index. -/
theorem moduleName_eq : target.moduleName? =
    if Text.before (· == '.') file = indexWord then target.parent?.bind fileName?
    else some (Text.before (· == '.') file) := by
  unfold moduleName? fileStem?
  rw [named]
  simp only [Option.map_some, Option.bind_eq_bind, Option.bind_some, before_splitName, beq_iff_eq]
  rfl

theorem fileName_ne_nil : file ≠ [] := by
  obtain ⟨last, final, called⟩ := Option.bind_eq_some_iff.mp named
  cases last with
  | normal name =>
      obtain rfl : name = file := Option.some.inj called
      exact name_ne_nil target name (List.mem_of_getLast? final)
  | root | current | parent => contradiction

/-- The name up to the first dot is empty in front of a dot at the beginning. -/
theorem before_eq_nil : Text.before (· == '.') file = [] ↔ file.head? = some '.' := by
  obtain ⟨first, rest, rfl⟩ := List.exists_cons_of_ne_nil (fileName_ne_nil named)
  by_cases dot : first = '.'
  · simp [Text.before, dot]
  · simp [Text.before, dot]

end Named

end Path

end UiContract
