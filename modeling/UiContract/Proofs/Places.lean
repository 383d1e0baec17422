import Mathlib.Data.Fintype.BigOperators
import UiContract.FileTree
import UiContract.Proofs.Encoding
import UiContract.Proofs.Paths
import UiContract.Proofs.SortedMap

/-!
Where a path leads does not depend on how it is written. A step that stays only asks for a directory,
so a path that leads somewhere leads to the same place without it. Only finitely many texts are short
enough to lead to a file at all.
-/
namespace UiContract

def Component.step? : Component → Option FileTree.Step
  | parent => some .up
  | normal name => some (.down name)
  | root => none
  | current => none

namespace FileTree

inductive Drops : List Step → List Step → Prop where
  | nil : Drops [] []
  | keep (step : Step) {steps fewer : List Step} :
      Drops steps fewer → Drops (step :: steps) (step :: fewer)
  | drop {steps fewer : List Step} : Drops steps fewer → Drops (.stay :: steps) fewer

theorem Drops.append_left (front : List Step) {steps fewer : List Step}
    (drops : Drops steps fewer) : Drops (front ++ steps) (front ++ fewer) := by
  induction front with
  | nil => exact drops
  | cons step _ ih => exact .keep step ih

theorem drops_filter (steps : List Step) : Drops steps (steps.filter (· ≠ .stay)) := by
  induction steps with
  | nil => exact .nil
  | cons step rest ih =>
      by_cases stays : step = .stay
      · subst stays
        exact .drop ih
      · rw [List.filter_cons_of_pos (by simpa using stays)]
        exact .keep step ih

theorem filter_stepsOf (text : List Char) :
    (stepsOf text).filter (· ≠ .stay) = (Path.solidOf text).filterMap Component.step? := by
  unfold stepsOf Path.solidOf
  rw [List.filterMap_append]
  have root : (if text.head? = some '/' then [Component.root] else []).filterMap
      Component.step? = [] := by
    split <;> rfl
  rw [root, List.nil_append]
  induction Text.pieces (· == '/') text with
  | nil => rfl
  | cons piece rest ih =>
      rw [List.map_cons, List.filterMap_cons, Component.ofPiece?]
      by_cases stays : (piece == [] || piece == ['.']) = true
      · rw [if_pos stays, if_pos stays]
        exact ih
      · rw [if_neg stays, if_neg stays]
        by_cases climbs : (piece == ['.', '.']) = true
        · rw [if_pos climbs, if_pos climbs]
          exact congrArg (Step.up :: ·) ih
        · rw [if_neg climbs, if_neg climbs]
          exact congrArg (Step.down piece :: ·) ih

variable (tree : FileTree)

/-- What leads somewhere leads there without the steps that stay, if links do. -/
theorem walk_drops (onLink : List Name → List Char → List Step → Except FileError (List Name))
    (links : ∀ place target {steps fewer : List Step}, Drops steps fewer → ∀ final,
      onLink place target steps = .ok final → onLink place target fewer = .ok final)
    {steps fewer : List Step} (drops : Drops steps fewer) (place final : List Name)
    (found : walk onLink tree place steps = .ok final) :
    walk onLink tree place fewer = .ok final := by
  -- By the steps left out; a link puts steps in front of the rest, hence `links` for every rest.
  induction drops generalizing place with
  | nil => exact found
  | keep step rest ih =>
      unfold walk at found ⊢
      split at found
      · contradiction
      · rename_i inside
        rw [if_neg inside]
        cases step with
        | stay => exact ih place found
        | up => exact ih place.dropLast found
        | down name =>
            dsimp only at found ⊢
            split at found
            · contradiction
            · rename_i short
              rw [if_neg short]
              split at found
              · contradiction
              · exact links place _ rest final found
              · exact ih (place ++ [name]) found
  | drop rest ih =>
      unfold walk at found
      split at found
      · contradiction
      · exact ih place found

theorem follow_drops (links : Nat) {steps fewer : List Step} (drops : Drops steps fewer)
    (place final : List Name) (found : tree.follow links place steps = .ok final) :
    tree.follow links place fewer = .ok final := by
  induction links generalizing steps fewer place final with
  | zero =>
      unfold follow at found ⊢
      refine walk_drops tree _ ?_ drops place final found
      intro start target steps fewer rest final reached
      contradiction
  | succ links ih =>
      unfold follow at found ⊢
      refine walk_drops tree _ ?_ drops place final found
      intro start target steps fewer rest final reached
      exact ih (rest.append_left (stepsOf target)) _ final reached

/-- A path that leads somewhere is short, has no character that names cannot have, and is followed
from the root or from the working directory. -/
theorem locate_ok (path : Path) (place : List Name) (found : tree.locate path = .ok place) :
    Text.byteSize path.text.toList < pathLimit ∧ Char.ofNat 0 ∉ path.text.toList ∧
      ∃ start, (if path.isAbsolute then some [] else tree.workingDirectory) = some start ∧
        tree.follow linkLimit start (stepsOf path.text.toList) = .ok place := by
  unfold locate at found
  dsimp only at found
  split at found
  · contradiction
  · split at found
    · contradiction
    · rename_i clean
      have named : Char.ofNat 0 ∉ path.text.toList := by
        intro member
        exact clean (List.any_eq_true.mpr ⟨_, member, beq_self_eq_true _⟩)
      split at found
      · contradiction
      · rename_i short
        refine ⟨Nat.lt_of_not_le short, named, ?_⟩
        split at found
        · rename_i above
          exact ⟨[], by rw [if_pos above], found⟩
        · rename_i below
          split at found
          · contradiction
          · rename_i start known
            exact ⟨start, by rw [if_neg below, known], found⟩

theorem locate_congr {first second : Path} (same : first.components = second.components)
    {place other : List Name} (found : tree.locate first = .ok place)
    (found' : tree.locate second = .ok other) : place = other := by
  obtain ⟨-, -, start, begins, followed⟩ := tree.locate_ok first place found
  obtain ⟨-, -, start', begins', followed'⟩ := tree.locate_ok second other found'
  have solid := Path.solid_congr same
  have above : first.isAbsolute = second.isAbsolute := by
    rw [Bool.eq_iff_iff, ← Path.root_mem_solid, ← Path.root_mem_solid, solid]
  rw [above] at begins
  have begun : start = start' := Option.some.inj (begins.symm.trans begins')
  -- Without the steps that stay, both writings ask for the steps of the same components.
  have direct := tree.follow_drops linkLimit (drops_filter _) start place followed
  have direct' := tree.follow_drops linkLimit (drops_filter _) start' other followed'
  rw [filter_stepsOf] at direct direct'
  rw [begun, show Path.solidOf first.text.toList = _ from solid] at direct
  exact Except.ok.inj (direct.symm.trans direct')

theorem look_ok (path : Path) (entry : Entry) (found : tree.look path = .ok entry) :
    ∃ place, tree.locate path = .ok place ∧ tree.entry? place = some entry := by
  unfold look at found
  cases located : tree.locate path with
  | error reason =>
      rw [located] at found
      contradiction
  | ok place =>
      refine ⟨place, rfl, ?_⟩
      rw [located] at found
      cases held : tree.entry? place with
      | none => simp [held, bind, Except.bind, throw, throwThe, MonadExceptOf.throw] at found
      | some other => simpa [held, bind, Except.bind, pure, Except.pure] using found

theorem readBytes_ok (path : Path) (bytes : List UInt8) :
    tree.readBytes path = .ok bytes ↔ tree.look path = .ok (.file bytes) := by
  unfold readBytes
  cases tree.look path with
  | error reason => simp [bind, Except.bind]
  | ok entry => cases entry <;> simp [bind, Except.bind, pure, Except.pure, throw, throwThe,
      MonadExceptOf.throw]

theorem isFile_iff (path : Path) :
    tree.isFile path = true ↔ ∃ bytes, tree.readBytes path = .ok bytes := by
  simp only [readBytes_ok]
  unfold isFile
  split <;> simp_all

theorem readBytes_congr {first second : Path} (same : first.components = second.components)
    {bytes others : List UInt8} (read : tree.readBytes first = .ok bytes)
    (read' : tree.readBytes second = .ok others) : bytes = others := by
  obtain ⟨place, located, held⟩ := tree.look_ok first _ ((tree.readBytes_ok first bytes).mp read)
  obtain ⟨place', located', held'⟩ :=
    tree.look_ok second _ ((tree.readBytes_ok second others).mp read')
  rw [tree.locate_congr same located located', held'] at held
  exact Entry.file.inj (Option.some.inj held.symm)

/-- Every directory lies in a directory, as in any file system. -/
def Nested : Prop :=
  ∀ place, tree.entry? place = some .directory → tree.entry? place.dropLast = some .directory

theorem nested_of_entries (inside : ∀ entry ∈ tree.entries.entries, entry.2 = .directory →
    tree.entry? entry.1.dropLast = some .directory) : tree.Nested := by
  intro place held
  unfold entry? at held
  split at held
  · rename_i root
    rw [beq_iff_eq.mp root]
    rfl
  · obtain ⟨spelled, member, same⟩ := SortedMap.mem_of_find _ place _ held
    rw [Std.LawfulEqOrd.eq_of_compare same]
    exact inside (spelled, .directory) member rfl

/-- A way that does not end with a step down to a name ends in a directory, if links do. -/
theorem walk_last (nested : tree.Nested)
    (onLink : List Name → List Char → List Step → Except FileError (List Name)) (last : Step)
    (flat : ∀ name, last ≠ .down name) (final : List Name)
    (links : ∀ place target front, onLink place target (front ++ [last]) = .ok final →
      tree.entry? final = some .directory) (front : List Step) (place : List Name)
    (found : walk onLink tree place (front ++ [last]) = .ok final) :
    tree.entry? final = some .directory := by
  induction front generalizing place with
  | nil =>
      unfold walk at found
      dsimp only [List.nil_append] at found
      split at found
      · contradiction
      · rename_i inside
        have directory : tree.entry? place = some .directory := by simpa using inside
        cases last with
        | stay => rwa [← Except.ok.inj found]
        | up =>
            rw [← Except.ok.inj found]
            exact nested place directory
        | down name => exact absurd rfl (flat name)
  | cons step rest ih =>
      unfold walk at found
      dsimp only [List.cons_append] at found
      split at found
      · contradiction
      · cases step with
        | stay => exact ih place found
        | up => exact ih place.dropLast found
        | down name =>
            dsimp only at found
            split at found
            · contradiction
            · split at found
              · contradiction
              · exact links place _ rest found
              · exact ih (place ++ [name]) found

theorem follow_last (nested : tree.Nested) (last : Step) (flat : ∀ name, last ≠ .down name)
    (final : List Name) (links : Nat) (front : List Step) (place : List Name)
    (found : tree.follow links place (front ++ [last]) = .ok final) :
    tree.entry? final = some .directory := by
  induction links generalizing front place with
  | zero =>
      unfold follow at found
      refine walk_last tree nested _ last flat final ?_ front place found
      intro start target front failed
      contradiction
  | succ links ih =>
      unfold follow at found
      refine walk_last tree nested _ last flat final ?_ front place found
      intro start target front reached
      rw [← List.append_assoc] at reached
      exact ih _ _ reached

theorem isFile_last (nested : tree.Nested) (path : Path) (file : tree.isFile path = true) :
    ∃ name, path.components.getLast? = some (.normal name) := by
  obtain ⟨bytes, read⟩ := (tree.isFile_iff path).mp file
  obtain ⟨place, located, held⟩ := tree.look_ok path _ ((tree.readBytes_ok path bytes).mp read)
  obtain ⟨-, -, start, -, followed⟩ := tree.locate_ok path place located
  obtain ⟨front, piece, pieces⟩ : ∃ front piece,
      Text.pieces (· == '/') path.text.toList = front ++ [piece] :=
    ⟨_, _, (List.dropLast_append_getLast (Text.pieces_ne_nil _ _)).symm⟩
  rw [stepsOf, pieces, List.map_append, List.map_singleton] at followed
  obtain ⟨name, down⟩ : ∃ name, (if (piece == [] || piece == ['.']) = true then Step.stay
      else if (piece == ['.', '.']) = true then Step.up else Step.down piece) = .down name := by
    by_contra flat
    have directory := tree.follow_last nested _ (not_exists.mp flat) place linkLimit _ start followed
    rw [held] at directory
    exact nomatch directory
  split at down
  · contradiction
  · rename_i moves
    split at down
    · contradiction
    · rename_i falls
      refine ⟨piece, ?_⟩
      rw [Path.components, Path.componentsOf_eq, Path.solidOf, pieces, List.filterMap_append,
        ← List.append_assoc, ← List.append_assoc, List.filterMap_cons, Component.ofPiece?,
        if_neg moves, if_neg falls]
      exact List.getLast?_concat

section Counting

def codeAt (characters : List Char) (position : Nat) : Nat :=
  (characters[position]?.map Char.toNat).getD 0

theorem codeAt_lt (characters : List Char) (position : Nat) :
    codeAt characters position < 0x110000 := by
  unfold codeAt
  cases characters[position]? with
  | none => decide
  | some character => exact Text.code_lt character

/-- A text without the character zero is told by the numbers of its characters. -/
theorem codeAt_injective (length : Nat) (first second : List Char)
    (short : first.length ≤ length) (short' : second.length ≤ length)
    (named : Char.ofNat 0 ∉ first) (named' : Char.ofNat 0 ∉ second)
    (same : ∀ position < length, codeAt first position = codeAt second position) :
    first = second := by
  refine List.ext_getElem? fun position => ?_
  by_cases inside : position < length
  · have codes := same position inside
    unfold codeAt at codes
    have positive : ∀ characters : List Char, Char.ofNat 0 ∉ characters →
        ∀ character, characters[position]? = some character → character.toNat ≠ 0 := by
      intro characters clean character held zero
      refine clean ?_
      have null : character = Char.ofNat 0 := Char.toNat_inj.mp zero
      exact null ▸ List.mem_of_getElem? held
    cases held : first[position]? with
    | none =>
        cases held' : second[position]? with
        | none => rfl
        | some other =>
            rw [held, held'] at codes
            exact absurd codes.symm (positive second named' other held')
    | some character =>
        cases held' : second[position]? with
        | none =>
            rw [held, held'] at codes
            exact absurd codes (positive first named character held)
        | some other =>
            rw [held, held'] at codes
            exact congrArg some (Char.toNat_inj.mp codes)
  · rw [List.getElem?_eq_none (by omega), List.getElem?_eq_none (by omega)]

theorem length_le_byteSize (characters : List Char) :
    characters.length ≤ Text.byteSize characters := by
  induction characters with
  | nil => exact Nat.le_refl 0
  | cons character rest ih =>
      have positive : 1 ≤ Text.charSize character := by
        unfold Text.charSize
        dsimp only
        split
        · exact Nat.le_refl 1
        · split
          · decide
          · split <;> decide
      show rest.length + 1 ≤ Text.charSize character + Text.byteSize rest
      omega

def codeOf (path : Path) (position : Fin pathLimit) : Fin 0x110000 :=
  ⟨codeAt path.text.toList position, codeAt_lt path.text.toList position⟩

theorem codeOf_injective (first second : Path) (file : tree.isFile first = true)
    (file' : tree.isFile second = true) (same : codeOf first = codeOf second) :
    first = second := by
  have limits : ∀ path, tree.isFile path = true →
      path.text.toList.length ≤ pathLimit ∧ Char.ofNat 0 ∉ path.text.toList := by
    intro path leads
    obtain ⟨bytes, read⟩ := (tree.isFile_iff path).mp leads
    obtain ⟨place, located, -⟩ := tree.look_ok path _ ((tree.readBytes_ok path bytes).mp read)
    obtain ⟨short, clean, -⟩ := tree.locate_ok path place located
    exact ⟨(length_le_byteSize path.text.toList).trans short.le, clean⟩
  have texts : first.text.toList = second.text.toList :=
    codeAt_injective pathLimit _ _ (limits first file).1 (limits second file').1 (limits first file).2
      (limits second file').2 fun position inside =>
        congrArg Fin.val (congrFun same ⟨position, inside⟩)
  exact congrArg Path.mk (String.toList_inj.mp texts)

theorem card_codes (length : Nat) :
    Fintype.card (Fin length → Fin 0x110000) = textCount length := by
  rw [Fintype.card_fun, Fintype.card_fin, Fintype.card_fin]
  rfl

theorem length_le_of_files (paths : List Path) (distinct : paths.Nodup)
    (files : ∀ path ∈ paths, tree.isFile path = true) : paths.length ≤ textCount pathLimit := by
  have apart : (paths.map codeOf).Nodup :=
    distinct.map_on fun first member second member' same =>
      codeOf_injective tree first second (files first member) (files second member') same
  calc
    paths.length = (paths.map codeOf).length := (List.length_map codeOf).symm
    _ ≤ Fintype.card (Fin pathLimit → Fin 0x110000) := apart.length_le_card
    _ = textCount pathLimit := card_codes pathLimit

end Counting

end FileTree

end UiContract
