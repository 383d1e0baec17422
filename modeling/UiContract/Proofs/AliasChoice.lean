import Mathlib
import UiContract.Proofs.FoldedPaths
import UiContract.Proofs.ImportResolution

/-!
Which alias `alias_target` reads a specifier with. The aliases stand in an order that is decided by their
texts, so it does not matter how they were listed; of those that apply to a specifier the first one is the
longest. What stands behind it leads below the target of the alias unless it climbs.
-/
namespace UiContract.Resolver

open Text

section Order

instance : Std.TransCmp aliasOrder :=
  have : Std.TransCmp fun first second : String × Path =>
      compare second.1.utf8ByteSize first.1.utf8ByteSize :=
    @Std.TransCmp.opposite _ (compareOn fun entry : String × Path => entry.1.utf8ByteSize) _
  inferInstanceAs (Std.TransCmp (compareLex
    (fun first second : String × Path => compare second.1.utf8ByteSize first.1.utf8ByteSize)
    (compareOn Prod.fst)))

def inTrialOrder (aliases : List (String × Path)) : List (String × Path) :=
  aliases.mergeSort fun first second => (aliasOrder first second).isLE

theorem perm_inTrialOrder (aliases : List (String × Path)) : (inTrialOrder aliases).Perm aliases :=
  List.mergeSort_perm aliases _

theorem inTrialOrder_pairwise (aliases : List (String × Path)) :
    (inTrialOrder aliases).Pairwise fun first second => (aliasOrder first second).isLE = true := by
  refine List.pairwise_mergeSort (fun _ _ _ => Std.TransCmp.isLE_trans) ?_ aliases
  intro first second
  rw [show aliasOrder second first = (aliasOrder first second).swap from Std.OrientedCmp.eq_swap]
  cases aliasOrder first second <;> rfl

theorem aliasOrder_size {first second : String × Path}
    (before : (aliasOrder first second).isLE = true) :
    second.1.utf8ByteSize ≤ first.1.utf8ByteSize := by
  by_contra longer
  have greater : compare second.1.utf8ByteSize first.1.utf8ByteSize = .gt :=
    Nat.compare_eq_gt.mpr (Nat.lt_of_not_le longer)
  rw [aliasOrder, greater] at before
  contradiction

theorem aliasOrder_antisymm {first second : String × Path}
    (before : (aliasOrder first second).isLE = true)
    (after : (aliasOrder second first).isLE = true) : first.1 = second.1 := by
  have level := Std.OrientedCmp.isLE_antisymm before after
  exact Std.LawfulEqOrd.eq_of_compare (Ordering.then_eq_eq.mp level).2

/-- Aliases with different texts are tried in one order, however they are listed. -/
theorem inTrialOrder_congr {left right : List (String × Path)} (perm : left.Perm right)
    (distinct : (left.map Prod.fst).Nodup) : inTrialOrder left = inTrialOrder right := by
  refine List.Perm.eq_of_pairwise ?_ (inTrialOrder_pairwise left) (inTrialOrder_pairwise right)
    ((perm_inTrialOrder left).trans (perm.trans (perm_inTrialOrder right).symm))
  intro first second member member' before after
  exact List.inj_on_of_nodup_map distinct ((perm_inTrialOrder left).mem_iff.mp member)
    (perm.mem_iff.mpr ((perm_inTrialOrder right).mem_iff.mp member'))
    (aliasOrder_antisymm before after)

end Order

section Longest

/-- The alias that applies to a specifier and is longer than every other one that does. -/
def IsLongest {Target : Type} (aliases : List (String × Target)) (specifier : List Char)
    (entry : String × Target) : Prop :=
  entry ∈ aliases ∧ Applies entry.1 specifier ∧
    ∀ other ∈ aliases, Applies other.1 specifier → other = entry ∨ other.1.length < entry.1.length

/-- Of two beginnings of a text the one with fewer bytes has fewer characters, unless they are one. -/
theorem length_lt_of_size {first second : String} {specifier : List Char}
    (begins : first.toList <+: specifier) (begins' : second.toList <+: specifier)
    (shorter : first.utf8ByteSize ≤ second.utf8ByteSize) :
    first = second ∨ first.length < second.length := by
  rcases List.prefix_or_prefix_of_prefix begins begins' with ⟨rest, whole⟩ | ⟨rest, whole⟩
  · cases rest with
    | nil => exact .inl (String.toList_inj.mp (by simpa using whole))
    | cons character rest =>
        refine .inr ?_
        rw [← String.length_toList, ← String.length_toList, ← whole, List.length_append]
        exact Nat.lt_add_of_pos_right (Nat.succ_pos _)
  · have longer : first = second ++ String.ofList rest := by
      rw [← String.toList_inj, String.toList_append, String.toList_ofList, whole]
    have none : (String.ofList rest).utf8ByteSize = 0 := by
      rw [longer, String.utf8ByteSize_append] at shorter
      omega
    rw [String.utf8ByteSize_eq_zero_iff.mp none] at longer
    exact .inl (by simpa using longer)

theorem Applies.begins {shortcut : String} {specifier : List Char}
    (applies : Applies shortcut specifier) : shortcut.toList <+: specifier := by
  obtain ⟨rest, whole, -⟩ := applies
  exact ⟨rest, whole.symm⟩

theorem IsLongest.unique {Target : Type} {aliases : List (String × Target)} {specifier : List Char}
    {first second : String × Target} (longest : IsLongest aliases specifier first)
    (longest' : IsLongest aliases specifier second) : first = second := by
  rcases longest.2.2 second longest'.1 longest'.2.1 with same | shorter
  · exact same.symm
  · rcases longest'.2.2 first longest.1 longest.2.1 with same | shorter'
    · exact same
    · exact absurd shorter' (Nat.lt_asymm shorter)

variable {aliases : List (String × Path)} {specifier : List Char}

theorem isLongest_of_first (distinct : (aliases.map Prod.fst).Nodup) {entry : String × Path}
    {front back : List (String × Path)} (order : inTrialOrder aliases = front ++ entry :: back)
    (none : ∀ other ∈ front, ¬ Applies other.1 specifier) (applies : Applies entry.1 specifier) :
    IsLongest aliases specifier entry := by
  have perm := perm_inTrialOrder aliases
  have member : entry ∈ aliases := perm.mem_iff.mp (order ▸ by simp)
  refine ⟨member, applies, fun other listed applies' => ?_⟩
  have tried : other ∈ front ++ entry :: back := order ▸ perm.mem_iff.mpr listed
  rcases List.mem_append.mp tried with early | late
  · exact absurd applies' (none other early)
  · rcases List.mem_cons.mp late with same | after
    · exact .inl same
    · have sorted := inTrialOrder_pairwise aliases
      rw [order] at sorted
      have before := (List.pairwise_cons.mp (List.pairwise_append.mp sorted).2.1).1 other after
      rcases length_lt_of_size applies'.begins applies.begins (aliasOrder_size before) with
        same | shorter
      · exact .inl (List.inj_on_of_nodup_map distinct listed member same)
      · exact .inr shorter

theorem aliased_inTrialOrder (distinct : (aliases.map Prod.fst).Nodup) (path : Path) :
    aliased? specifier (inTrialOrder aliases) = some path ↔
      ∃ entry rest, IsLongest aliases specifier entry ∧ specifier = entry.1.toList ++ rest ∧
        path = aliasPath entry.2 rest := by
  have first : ∀ path, aliased? specifier (inTrialOrder aliases) = some path →
      ∃ entry rest, IsLongest aliases specifier entry ∧ specifier = entry.1.toList ++ rest ∧
        path = aliasPath entry.2 rest := by
    intro path found
    obtain ⟨front, shortcut, target, back, rest, order, none, applies, cut, same⟩ :=
      (aliased_iff specifier _ path).mp found
    exact ⟨(shortcut, target), rest, isLongest_of_first distinct order none applies, cut, same⟩
  refine ⟨first path, ?_⟩
  rintro ⟨entry, rest, longest, cut, rfl⟩
  cases found : aliased? specifier (inTrialOrder aliases) with
  | none =>
      have listed := (perm_inTrialOrder aliases).mem_iff.mpr longest.1
      exact absurd longest.2.1 ((aliased_eq_none specifier _).mp found entry listed)
  | some path =>
      obtain ⟨other, rest', longest', cut', rfl⟩ := first path found
      obtain rfl := longest.unique longest'
      rw [List.append_cancel_left (cut.symm.trans cut')]

theorem isLongest_map {Target : Type} (targetOf : Target → Path) (aliases : List (String × Target))
    (distinct : (aliases.map Prod.fst).Nodup) (entry : String × Path) :
    IsLongest (aliases.map fun entry => (entry.1, targetOf entry.2)) specifier entry ↔
      ∃ source, IsLongest aliases specifier source ∧ entry = (source.1, targetOf source.2) := by
  constructor
  · rintro ⟨member, applies, longest⟩
    obtain ⟨source, listed, rfl⟩ := List.mem_map.mp member
    refine ⟨source, ⟨listed, applies, fun other listed' applies' => ?_⟩, rfl⟩
    rcases longest _ (List.mem_map_of_mem listed') applies' with same | shorter
    · exact .inl (List.inj_on_of_nodup_map distinct listed' listed (Prod.mk.inj same).1)
    · exact .inr shorter
  · rintro ⟨source, ⟨listed, applies, longest⟩, rfl⟩
    refine ⟨List.mem_map_of_mem listed, applies, fun other member applies' => ?_⟩
    obtain ⟨other, listed', rfl⟩ := List.mem_map.mp member
    rcases longest other listed' applies' with rfl | shorter
    · exact .inl rfl
    · exact .inr shorter

end Longest

section Targets

theorem pieces_dropWhile (rest : List Char) : ∀ piece ∈ pieces (· == '/') (rest.dropWhile (· == '/')),
    piece ∈ pieces (· == '/') rest := by
  induction rest with
  | nil => exact fun _ => id
  | cons character rest ih =>
      rw [List.dropWhile_cons]
      split
      · rename_i slash
        intro piece member
        rw [pieces, if_pos slash]
        exact List.mem_cons_of_mem [] (ih piece member)
      · exact fun _ => id

theorem filterMap_pieces_dropWhile (rest : List Char) :
    (pieces (· == '/') (rest.dropWhile (· == '/'))).filterMap Component.ofPiece? =
      (pieces (· == '/') rest).filterMap Component.ofPiece? := by
  induction rest with
  | nil => rfl
  | cons character rest ih =>
      rw [List.dropWhile_cons]
      split
      · rename_i slash
        rw [ih, pieces, if_pos slash]
        rfl
      · rfl

/-- What an alias makes of the rest of a specifier lies below its target, slashes aside. -/
theorem aliasPath_components (base : Path) (rest : List Char)
    (inside : ['.', '.'] ∉ pieces (· == '/') rest) :
    (aliasPath base.normalize rest).normalize.components = base.normalize.components ++
      (pieces (· == '/') rest).filterMap Component.ofPiece? := by
  rw [← filterMap_pieces_dropWhile]
  unfold aliasPath
  split
  · rename_i none
    rw [none]
    show _ = base.normalize.components ++ []
    rw [List.append_nil, Path.normalize_components, Path.normalize_solid, Path.normalize_components,
      Path.fold_fold]
  · have relative : (rest.dropWhile (· == '/')).head? ≠ some '/' := by
      intro slash
      have apart := head_dropWhile (· == '/') rest '/' slash
      contradiction
    rw [Path.normalize_join_components] <;> rw [String.toList_ofList]
    · exact relative
    · exact fun member => inside (pieces_dropWhile rest _ member)

end Targets

section Settings

variable {settings : ResolverSettings} {resolver : Resolver}

theorem make_ok (made : make settings = .ok resolver) :
    resolver.root = settings.projectRoot.normalize ∧
      resolver.aliases = inTrialOrder (settings.aliases.map fun entry =>
        (entry.1, aliasTarget resolver.root entry.2)) := by
  unfold make at made
  split at made
  · contradiction
  · split at made
    · contradiction
    · obtain rfl := Except.ok.inj made
      exact ⟨rfl, rfl⟩

theorem make_perm (distinct : (settings.aliases.map Prod.fst).Nodup)
    {aliases : List (String × String)} (perm : aliases.Perm settings.aliases) :
    make { settings with aliases } = make settings := by
  have targets := fun root => perm.map fun entry => (entry.1, aliasTarget root entry.2)
  have order := fun root => inTrialOrder_congr (targets root) (by
    rw [List.map_map]
    exact ((perm.map Prod.fst).nodup_iff).mpr distinct)
  unfold make
  dsimp only
  rw [perm.any_eq]
  unfold inTrialOrder at order
  rw [order]

end Settings

/-- Aliases of different texts: none is used where none applies, else the longest one that applies, in
whatever order they are listed; and unless the rest of the specifier climbs, what it is looked up as
lies below the target of that alias, however many slashes the rest begins with. -/
theorem aliases_exact (settings : ResolverSettings)
    (distinct : (settings.aliases.map Prod.fst).Nodup) (resolver : Resolver)
    (made : make settings = .ok resolver) (specifier : List Char) :
    (aliased? specifier resolver.aliases = none ↔
      ∀ entry ∈ settings.aliases, ¬ Applies entry.1 specifier) ∧
    (∀ path, aliased? specifier resolver.aliases = some path ↔
      ∃ entry rest, IsLongest settings.aliases specifier entry ∧
        specifier = entry.1.toList ++ rest ∧
        path = aliasPath (aliasTarget resolver.root entry.2) rest) ∧
    (∀ aliases, aliases.Perm settings.aliases → make { settings with aliases } = .ok resolver) ∧
    ∀ entry rest, IsLongest settings.aliases specifier entry → specifier = entry.1.toList ++ rest →
      "..".toList ∉ pieces (· == '/') rest → ∀ importer, ∃ base,
        resolver.candidate? importer specifier = some base ∧
          base.startsWith (aliasTarget resolver.root entry.2) = true := by
  obtain ⟨-, whole⟩ := make_ok made
  have distinct' : ((settings.aliases.map fun entry =>
      (entry.1, aliasTarget resolver.root entry.2)).map Prod.fst).Nodup := by
    rw [List.map_map]
    exact distinct
  have chosen : ∀ path, aliased? specifier resolver.aliases = some path ↔
      ∃ entry rest, IsLongest settings.aliases specifier entry ∧
        specifier = entry.1.toList ++ rest ∧
        path = aliasPath (aliasTarget resolver.root entry.2) rest := by
    intro path
    rw [whole, aliased_inTrialOrder distinct']
    constructor
    · rintro ⟨entry, rest, longest, cut, same⟩
      obtain ⟨source, longest', rfl⟩ := (isLongest_map _ _ distinct entry).mp longest
      exact ⟨source, rest, longest', cut, same⟩
    · rintro ⟨source, rest, longest, cut, same⟩
      exact ⟨_, rest, (isLongest_map _ _ distinct _).mpr ⟨source, longest, rfl⟩, cut, same⟩
  refine ⟨?_, chosen, ?_, ?_⟩
  · rw [aliased_eq_none, whole]
    simp only [(perm_inTrialOrder _).mem_iff, List.forall_mem_map]
  · intro aliases perm
    rw [make_perm distinct perm, made]
  · intro entry rest longest cut inside importer
    have found := (chosen _).mpr ⟨entry, rest, longest, cut, rfl⟩
    refine ⟨(aliasPath (aliasTarget resolver.root entry.2) rest).normalize, ?_, ?_⟩
    · unfold candidate?
      rw [found]
    · unfold Path.startsWith
      rw [List.isPrefixOf_iff_prefix]
      exact ⟨_, (aliasPath_components _ rest inside).symm⟩

def nestedSettings : ResolverSettings :=
  { projectRoot := ⟨"/repo"⟩
    aliases := [("@", "all"), ("@ui", "src/ui"), ("@ui/", "./lib/")] }

def nestedResolver : Resolver :=
  { root := ⟨"/repo"⟩
    aliases := [("@ui/", ⟨"/repo/lib"⟩), ("@ui", ⟨"/repo/src/ui"⟩), ("@", ⟨"/repo/all"⟩)]
    extensions := [".ts", ".tsx", ".js", ".jsx"] }

theorem aliases_exact_nested : (nestedSettings.aliases.map Prod.fst).Nodup ∧
    make nestedSettings = .ok nestedResolver ∧
    aliased? "@ui//x".toList nestedResolver.aliases = some ⟨"/repo/lib/x"⟩ ∧
    make { nestedSettings with aliases := nestedSettings.aliases.reverse } = .ok nestedResolver ∧
    ∃ base, nestedResolver.candidate? ⟨"/repo/src/a.ts"⟩ "@ui//x".toList = some base ∧
      base.startsWith ⟨"/repo/lib"⟩ = true := by
  have distinct : (nestedSettings.aliases.map Prod.fst).Nodup := by decide
  have made : make nestedSettings = .ok nestedResolver := by cbv
  have longest : IsLongest nestedSettings.aliases "@ui//x".toList ("@ui/", "./lib/") := by
    refine ⟨by simp [nestedSettings], ⟨"/x".toList, by decide, .inl (by decide)⟩, ?_⟩
    intro other listed _
    simp only [nestedSettings, List.mem_cons, List.not_mem_nil, or_false] at listed
    rcases listed with rfl | rfl | rfl
    · exact .inr (by decide)
    · exact .inr (by decide)
    · exact .inl rfl
  obtain ⟨-, chosen, orders, below⟩ :=
    aliases_exact nestedSettings distinct nestedResolver made "@ui//x".toList
  have cut : "@ui//x".toList = "@ui/".toList ++ "/x".toList := by decide
  exact ⟨distinct, made, (chosen _).mpr ⟨_, "/x".toList, longest, cut, by decide +kernel⟩,
    orders _ (List.reverse_perm _), below _ _ longest cut (by decide) ⟨"/repo/src/a.ts"⟩⟩

end UiContract.Resolver
