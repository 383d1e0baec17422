import Mathlib.Data.List.DropRight
import UiContract.Proofs.AliasChoice
import UiContract.Proofs.Compliance
import UiContract.Proofs.EntryOrder
import UiContract.Proofs.NormalPaths
import UiContract.Proofs.RelativePaths

/-!
What a path of the configuration denotes. An entry is joined to the root as it is written; in front of every
other path a `./` is left out before, and of the target of an alias the slashes at its end as well. That
makes no difference, unless a slash comes to stand in front which then begins at the root of the file
system, or nothing but slashes is written at all.
-/
namespace UiContract

namespace Path

structure Based (root : Path) : Prop where
  absolute : root.isAbsolute = true
  normal : root.normalize = root

section Written

theorem inner_dropCurrent (written : List Char) : inner (dropCurrent written) = inner written := by
  induction written using dropCurrent.induct with
  | case1 rest ih => rw [dropCurrent, ih, inner_dot]
  | case2 written apart =>
      rw [dropCurrent]
      exact apart

theorem inner_dropEnd (written : List Char) :
    inner (Text.dropEnd (· == '/') written) = inner written := by
  show inner (written.rdropWhile (· == '/')) = inner written
  induction written using List.reverseRecOn with
  | nil => rfl
  | append_singleton front last ih =>
      rw [List.rdropWhile_concat]
      split
      · rename_i slash
        obtain rfl : last = '/' := beq_iff_eq.mp slash
        have behind : inner (front ++ ['/']) = inner front ++ inner [] := by
          unfold inner
          rw [Text.pieces_append (· == '/') front [] '/' rfl, List.filterMap_append]
        rw [ih, behind]
        exact (List.append_nil _).symm
      · rfl

/-- A text in which nothing comes in front of a slash but `./`, and this does. -/
def Escapes (written : String) : Prop :=
  written.toList.head? ≠ some '/' ∧ (dropCurrent written.toList).head? = some '/'

instance : DecidablePred Escapes := fun _ => inferInstanceAs (Decidable (_ ∧ _))

/-- A text of which nothing but slashes is left without any `./` in front. -/
def Bare (written : String) : Prop :=
  ∀ character ∈ dropCurrent written.toList, (character == '/') = true

instance : DecidablePred Bare := fun _ => inferInstanceAs (Decidable (∀ _ ∈ _, _))

/-- A text that begins at the root of the file system but whose slashes are all left out, or that does
not and of which more than slashes is left behind one. -/
def Strays (written : String) : Prop :=
  written.toList.head? = some '/' ∧ Bare written ∨ Escapes written ∧ ¬ Bare written

instance : DecidablePred Strays := fun _ => inferInstanceAs (Decidable (_ ∨ _))

def stripped (written : String) : Path := ⟨String.ofList (dropCurrent written.toList)⟩

theorem dropCurrent_of_slash {written : List Char} (slash : written.head? = some '/') :
    dropCurrent written = written := by
  obtain ⟨rest, rfl⟩ := List.head?_eq_some_iff.mp slash
  rfl

theorem dropEnd_eq_nil {written : String} :
    Text.dropEnd (· == '/') (dropCurrent written.toList) = [] ↔ Bare written :=
  List.rdropWhile_eq_nil_iff

theorem inner_bare {written : String} (bare : Bare written) : inner written.toList = [] := by
  rw [← inner_dropCurrent, ← inner_dropEnd, dropEnd_eq_nil.mpr bare]
  rfl

variable (root : Path) (written : String)

theorem join_absolute (added : String) (absolute : added.toList.head? = some '/') :
    root.join added = ⟨added⟩ := by
  unfold join
  rw [if_pos (by simpa using absolute)]

theorem normalize_join (relative : written.toList.head? ≠ some '/') :
    (root.join written).normalize = ofComponents (fold (root.solid ++ inner written.toList)) := by
  rw [normalize_eq, join_solid _ _ relative]
  rfl

/-- Two texts of the same steps lead to the same, if both begin at the root or neither does. -/
theorem normalize_join_agrees {first second : String}
    (front : first.toList.head? = some '/' ↔ second.toList.head? = some '/')
    (same : inner first.toList = inner second.toList) :
    (root.join first).normalize = (root.join second).normalize := by
  by_cases absolute : first.toList.head? = some '/'
  · rw [join_absolute root _ absolute, join_absolute root _ (front.mp absolute)]
    refine normalize_congr ?_
    unfold solid solidOf
    rw [if_pos absolute, if_pos (front.mp absolute)]
    exact congrArg ([Component.root] ++ ·) same
  · rw [normalize_join root _ absolute, normalize_join root _ (mt front.mpr absolute), same]

/-- Where no slash comes to stand in front, leaving out a `./` changes nothing. -/
theorem configured_eq (inside : ¬ Escapes written) :
    root.configured written = (root.join written).normalize := by
  refine normalize_join_agrees root ?_ (by rw [String.toList_ofList, inner_dropCurrent])
  rw [String.toList_ofList]
  constructor
  · exact fun slash => by_contra fun relative => inside ⟨relative, slash⟩
  · intro slash
    rw [dropCurrent_of_slash slash, slash]

theorem configured_of_escapes (escapes : Escapes written) :
    root.configured written = (stripped written).normalize := by
  unfold configured
  rw [join_absolute root _ (by rw [String.toList_ofList]; exact escapes.2)]
  rfl

theorem normalize_join_empty (normal : root.normalize = root) : (root.join "").normalize = root := by
  rw [normalize_join root "" nofun]
  show ofComponents (fold (root.solid ++ [])) = root
  rw [List.append_nil, ← normalize_eq, normal]

end Written

section Deep

/-- A step takes off no more than one step of what was folded, and adds no more than one. -/
theorem foldStep_length (folded : List Component) (step : Component) :
    folded.length ≤ (foldStep folded step).length + 1 ∧
      (foldStep folded step).length ≤ folded.length + 1 := by
  unfold foldStep
  split
  · omega
  · split
    · exact ⟨Nat.le_refl _, Nat.le_succ_of_le (Nat.le_succ _)⟩
    · exact ⟨Nat.zero_le _, Nat.le_refl _⟩
    · exact ⟨Nat.le_succ_of_le (Nat.le_succ _), Nat.le_refl _⟩
    · exact ⟨Nat.le_succ _, Nat.le_succ _⟩
  · exact ⟨Nat.le_succ_of_le (Nat.le_succ _), Nat.le_refl _⟩

theorem foldl_length (steps folded : List Component) :
    folded.length ≤ (steps.foldl foldStep folded).length + steps.length ∧
      (steps.foldl foldStep folded).length ≤ folded.length + steps.length := by
  induction steps generalizing folded with
  | nil => simp
  | cons step rest ih =>
      have first := foldStep_length folded step
      have later := ih (foldStep folded step)
      simp only [List.foldl_cons, List.length_cons]
      omega

theorem fold_length_le (steps : List Component) : (fold steps).length ≤ steps.length := by
  have bound := (foldl_length steps []).2
  rw [fold, List.length_reverse]
  simpa using bound

/-- Steps that are put behind a folded path take off no more of it than there are. -/
theorem Settled.length_le {front : List Component} (settled : Settled front) (steps : List Component) :
    front.length ≤ (fold (front ++ steps)).length + steps.length := by
  have kept : front.foldl foldStep [] = front.reverse := by
    rw [← List.reverse_reverse (front.foldl foldStep []), ← fold, fold_of_folded settled.left]
  have bound := (foldl_length steps front.reverse).1
  rw [List.length_reverse] at bound
  rw [fold, List.length_reverse, List.foldl_append, kept]
  exact bound

def deepSteps (depth : Nat) : List Component := .root :: List.replicate depth (.normal ['x'])

theorem deepSteps_settled (depth : Nat) : Settled (deepSteps depth) := by
  refine ⟨⟨List.replicate depth (.normal ['x']), fun step member => ?_, .inr rfl⟩,
    List.replicate depth ['x'], 0, .inr ?_⟩
  · rw [List.eq_of_mem_replicate member]
    exact ⟨rfl, List.forall_mem_singleton.mpr rfl⟩
  · rw [deepSteps, List.reverse_cons, List.reverse_replicate, List.map_replicate]

def deep (depth : Nat) : Path := ofComponents (deepSteps depth)

theorem deep_based (depth : Nat) : (deep depth).Based := by
  constructor
  · have text : (deep depth).text.toList = '/' :: Text.joinPieces ['/']
        ((List.replicate depth (Component.normal ['x'])).map Component.text) := String.toList_ofList
    unfold isAbsolute
    rw [text]
    rfl
  · exact normalize_ofComponents (deepSteps_settled depth)

theorem deep_solid (depth : Nat) : (deep depth).solid = deepSteps depth := by
  rw [deep, ofComponents, solid, String.toList_ofList, solid_textOf _ (deepSteps_settled depth).tidy]

/-- From deep enough no relative text leads as far up as one that begins at the root. -/
theorem exists_deep_apart (path : Path) (written : String)
    (relative : written.toList.head? ≠ some '/') (same : path.solid = .root :: inner written.toList) :
    ∃ other : Path, other.Based ∧ path.normalize ≠ (other.join written).normalize := by
  let depth := 2 * (inner written.toList).length + 1
  refine ⟨deep depth, deep_based depth, fun equal => ?_⟩
  have steps : fold (.root :: inner written.toList) = fold (deepSteps depth ++ inner written.toList) := by
    have components := congrArg Path.components equal
    rw [normalize_components, normalize_components, join_solid _ _ relative, same, deep_solid] at components
    exact components
  have short := fold_length_le (.root :: inner written.toList)
  have long := (deepSteps_settled depth).length_le (inner written.toList)
  have size : (deepSteps depth).length = depth + 1 := by
    rw [deepSteps, List.length_cons, List.length_replicate]
  rw [steps, List.length_cons] at short
  omega

theorem stripped_solid {written : String} (escapes : Escapes written) :
    (stripped written).solid = .root :: inner written.toList := by
  unfold solid solidOf stripped
  rw [String.toList_ofList, if_pos escapes.2]
  exact congrArg (Component.root :: ·) (inner_dropCurrent written.toList)

theorem configured_iff (written : String) :
    (∀ root : Path, root.Based → root.configured written = (root.join written).normalize) ↔
      ¬ Escapes written := by
  constructor
  · intro agrees escapes
    obtain ⟨root, based, apart⟩ :=
      exists_deep_apart (stripped written) written escapes.1 (stripped_solid escapes)
    exact apart ((configured_of_escapes root written escapes).symm.trans (agrees root based))
  · exact fun inside root _ => configured_eq root written inside

end Deep

end Path

namespace Resolver

open UiContract.Path

variable {root : Path} (written : String)

theorem aliasTarget_bare (based : root.Based) (bare : Bare written) :
    aliasTarget root written = root := by
  unfold aliasTarget
  rw [dropEnd_eq_nil.mpr bare]
  exact normalize_join_empty root based.normal

theorem aliasTarget_eq (occupied : ¬ Bare written) :
    aliasTarget root written = root.configured written := by
  obtain ⟨slashes, whole⟩ := List.rdropWhile_prefix (· == '/') (dropCurrent written.toList)
  have front : (Text.dropEnd (· == '/') (dropCurrent written.toList)).head? =
      (dropCurrent written.toList).head? := by
    conv_rhs => rw [← whole]
    exact (List.head?_append_of_ne_nil _ (mt dropEnd_eq_nil.mp occupied)).symm
  refine normalize_join_agrees root ?_ ?_ <;> rw [String.toList_ofList, String.toList_ofList]
  · rw [front]
  · exact inner_dropEnd (dropCurrent written.toList)

/-- The texts that name from every root as the target of an alias what they name as an entry. -/
theorem aliasTarget_iff :
    (∀ root : Path, root.Based → aliasTarget root written = (root.join written).normalize) ↔
      ¬ Strays written := by
  constructor
  · rintro agrees (⟨absolute, bare⟩ | ⟨escapes, occupied⟩)
    · have based := deep_based 1
      have same := agrees _ based
      rw [aliasTarget_bare written based bare, join_absolute _ _ absolute] at same
      have steps := congrArg solid same
      rw [deep_solid, normalize_solid, solid, solidOf, if_pos absolute] at steps
      have none : (Text.pieces (· == '/') written.toList).filterMap Component.ofPiece? = [] :=
        inner_bare bare
      rw [none] at steps
      exact absurd steps (by decide)
    · refine (configured_iff written).mp (fun root based => ?_) escapes
      rw [← aliasTarget_eq written occupied, agrees root based]
  · intro steady root based
    by_cases bare : Bare written
    · have relative : written.toList.head? ≠ some '/' := fun slash => steady (.inl ⟨slash, bare⟩)
      rw [aliasTarget_bare written based bare, normalize_join root written relative, inner_bare bare,
        List.append_nil, ← normalize_eq, based.normal]
    · rw [aliasTarget_eq written bare]
      exact configured_eq root written fun escapes => steady (.inr ⟨escapes, bare⟩)

theorem mem_aliases {settings : ResolverSettings} {resolver : Resolver}
    (made : make settings = .ok resolver) (entry : String × Path) :
    entry ∈ resolver.aliases ↔ ∃ source ∈ settings.aliases,
      (source.1, aliasTarget settings.projectRoot.normalize source.2) = entry := by
  obtain ⟨rooted, whole⟩ := make_ok made
  rw [whole, (perm_inTrialOrder _).mem_iff, List.mem_map, rooted]

end Resolver

theorem ReachableSet.build_below {resolver : Resolver} {tree : FileTree} {sourceRoot : String}
    {entries : List String} {reached : ReachableSet}
    (built : build resolver tree sourceRoot entries = .ok reached) :
    ∀ path, reached.contains path = true → (∃ entry ∈ reached.entries, entry.same path = true) ∨
      path.startsWith (resolver.root.configured sourceRoot) = true := by
  refine (build_contains built).2 _ ⟨?_, ?_, ?_⟩
  · intro path member
    exact .inl ⟨path, (build_shape built).2.1 ▸ member, (Path.same_iff _ _).mpr rfl⟩
  · rintro importer target - ⟨-, -, -, -, -, -, below⟩
    exact .inr below
  · intro path other alike
    have components := (Path.same_iff _ _).mp alike
    refine Or.imp ?_ ?_
    · rintro ⟨entry, member, known⟩
      exact ⟨entry, member, (Path.same_iff _ _).mpr (((Path.same_iff _ _).mp known).trans components)⟩
    · intro below
      unfold Path.startsWith at below ⊢
      rwa [← components]

namespace Gate

open UiContract.Path

/-- Where the sections of a configuration take their paths from: the checks from the root, the walk from
the entries, and what it reaches besides lies below the source root. -/
theorem prepare_sections {tree : FileTree} {root : Path} (based : root.Based) {config : GateConfig}
    {gate : Gate} (prepared : prepare tree root config = .ok gate) :
    gate.reachable.root = root ∧
      gate.reachable.entries = config.entries.map (fun written => (root.join written).normalize) ∧
      ∀ path, gate.reachable.contains path = true →
        (∃ entry ∈ gate.reachable.entries, entry.same path = true) ∨
          path.startsWith (root.configured config.sourceRoot) = true := by
  obtain ⟨resolver, made, reachable, built, rfl⟩ := prepare_ok tree root config gate prepared
  obtain ⟨rooted, entries, -⟩ := ReachableSet.build_shape built
  have same : resolver.root = root := (Resolver.make_ok made).1.trans based.normal
  rw [← same]
  exact ⟨rooted, entries, ReachableSet.build_below built⟩

/-- What a text of the configuration names in each section. From a folded root that begins at the root of
the file system it is for an entry what the text leads to from there. The checks and the source root leave
out a `./` in front, and aliases the slashes at the end besides, which makes no difference to any root
unless a slash comes to stand in front or slashes are all that there is. -/
theorem configured_exact (root : Path) (based : root.Based) (written : String) :
    (∀ tree config gate, prepare tree root config = .ok gate →
      gate.reachable.root = root ∧
      gate.reachable.entries = config.entries.map (fun entry => (root.join entry).normalize) ∧
      ∀ path, gate.reachable.contains path = true →
        (∃ entry ∈ gate.reachable.entries, entry.same path = true) ∨
          path.startsWith (root.configured config.sourceRoot) = true) ∧
    (∀ settings resolver, settings.projectRoot = root → Resolver.make settings = .ok resolver →
      ∀ entry, entry ∈ resolver.aliases ↔ ∃ source ∈ settings.aliases,
        (source.1, Resolver.aliasTarget root source.2) = entry) ∧
    root.configured written = (if Escapes written then stripped written else root.join written).normalize ∧
    Resolver.aliasTarget root written = (if Bare written then root else root.configured written) ∧
    ((∀ other : Path, other.Based → other.configured written = (other.join written).normalize) ↔
      ¬ Escapes written) ∧
    ((∀ other : Path, other.Based →
        Resolver.aliasTarget other written = (other.join written).normalize) ↔ ¬ Strays written) := by
  refine ⟨fun tree config gate => prepare_sections based, ?_, ?_, ?_, configured_iff written,
    Resolver.aliasTarget_iff written⟩
  · rintro settings resolver rfl made entry
    rw [Resolver.mem_aliases made, based.normal]
  · split
    · rename_i escapes
      exact configured_of_escapes root written escapes
    · rename_i inside
      exact configured_eq root written inside
  · split
    · rename_i bare
      exact Resolver.aliasTarget_bare written based bare
    · rename_i occupied
      exact Resolver.aliasTarget_eq written occupied

theorem configured_exact_plain : (⟨"/repo"⟩ : Path).Based ∧ ¬ Escapes "./src/" ∧ ¬ Strays "./src/" ∧
    (Path.join ⟨"/repo"⟩ "./src/").normalize = ⟨"/repo/src"⟩ ∧
    Path.configured ⟨"/repo"⟩ "./src/" = ⟨"/repo/src"⟩ ∧
    Resolver.aliasTarget ⟨"/repo"⟩ "./src/" = ⟨"/repo/src"⟩ := by
  have based : (⟨"/repo"⟩ : Path).Based := ⟨by decide, by decide⟩
  have inside : ¬ Escapes "./src/" := by decide
  have steady : ¬ Strays "./src/" := by decide
  have listed : (Path.join ⟨"/repo"⟩ "./src/").normalize = ⟨"/repo/src"⟩ := by decide
  obtain ⟨-, -, -, -, named, target⟩ := configured_exact ⟨"/repo"⟩ based "./src/"
  exact ⟨based, inside, steady, listed, (named.mpr inside _ based).trans listed,
    (target.mpr steady _ based).trans listed⟩

/-- A slash behind the `./` leads out of the project, which nothing does that is written as an entry. -/
theorem escaping_slash : (⟨"/repo"⟩ : Path).Based ∧
    Path.configured ⟨"/repo"⟩ ".//nowhere" = ⟨"/nowhere"⟩ ∧
    Resolver.aliasTarget ⟨"/repo"⟩ ".//nowhere" = ⟨"/nowhere"⟩ ∧
    (Path.join ⟨"/repo"⟩ ".//nowhere").normalize = ⟨"/repo/nowhere"⟩ ∧
    Path.configured ⟨"/repo"⟩ "/" = ⟨"/"⟩ ∧ Resolver.aliasTarget ⟨"/repo"⟩ "/" = ⟨"/repo"⟩ ∧
    (Path.join ⟨"/repo"⟩ "/").normalize = ⟨"/"⟩ := by
  refine ⟨⟨by decide, by decide⟩, ?_⟩
  decide

end Gate

end UiContract
