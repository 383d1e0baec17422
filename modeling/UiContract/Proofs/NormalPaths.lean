import UiContract.Proofs.FollowedImports
import UiContract.Proofs.ImportResolution
import UiContract.Proofs.PlainNames

/-!
Paths that are folded already. Steps up stand in front of all names, and only where a path does not begin
at the root. A name that is put behind such a path keeps it so, and so does an extension that is put
behind its last name: every file that a walk reaches has one path, however it was imported.
-/
namespace UiContract

namespace Path

section Steps

/-- Steps in reverse that folding has left: names, and behind them the root or steps up. -/
def Folded (folded : List Component) : Prop :=
  ∃ names : List (List Char), ∃ climbs : Nat,
    folded = names.map .normal ++ List.replicate climbs .parent ∨ folded = names.map .normal ++ [.root]

theorem foldStep_folded {folded : List Component} (left : Folded folded) {step : Component}
    (plain : Plain step) : Folded (foldStep folded step) := by
  obtain ⟨names, climbs, shape⟩ := left
  cases step with
  | root => exact absurd plain.1 (by decide)
  | current => exact ⟨names, climbs, shape⟩
  | normal name => exact ⟨name :: names, climbs, shape.imp (congrArg _) (congrArg _)⟩
  | parent =>
      cases names with
      | cons name rest =>
          rcases shape with rfl | rfl
          · exact ⟨rest, climbs, .inl rfl⟩
          · exact ⟨rest, climbs, .inr rfl⟩
      | nil =>
          rcases shape with rfl | rfl
          · refine ⟨[], climbs + 1, .inl ?_⟩
            cases climbs <;> rfl
          · exact ⟨[], climbs, .inr rfl⟩

theorem foldl_folded (steps : List Component) (plain : ∀ step ∈ steps, Plain step)
    {folded : List Component} (left : Folded folded) : Folded (steps.foldl foldStep folded) := by
  induction steps generalizing folded with
  | nil => exact left
  | cons step rest ih =>
      obtain ⟨first, others⟩ := List.forall_mem_cons.mp plain
      exact ih others (foldStep_folded left first)

theorem fold_folded {steps : List Component} (tidy : Tidy steps) : Folded (fold steps).reverse := by
  rw [fold, List.reverse_reverse]
  obtain ⟨rest, plain, rfl | rfl⟩ := tidy
  · exact foldl_folded _ plain ⟨[], 0, .inl rfl⟩
  · exact foldl_folded _ plain ⟨[], 0, .inr rfl⟩

theorem Folded.tail {step : Component} {rest : List Component} (left : Folded (step :: rest)) :
    Folded rest := by
  obtain ⟨names, climbs, shape⟩ := left
  cases names with
  | cons name others =>
      exact ⟨others, climbs, shape.imp (fun same => (List.cons.inj same).2)
        fun same => (List.cons.inj same).2⟩
  | nil =>
      rcases shape with same | same
      · cases climbs with
        | zero => exact nomatch same
        | succ climbs => exact ⟨[], climbs, .inl (List.cons.inj same).2⟩
      · exact ⟨[], 0, .inl (List.cons.inj same).2⟩

theorem fold_of_folded {steps : List Component} (left : Folded steps.reverse) : fold steps = steps := by
  -- Steps up are kept where nothing is left that they could take away.
  have top : ∀ climbs, (List.replicate climbs Component.parent).foldl foldStep [] =
      List.replicate climbs .parent := by
    intro climbs
    induction climbs with
    | zero => rfl
    | succ climbs ih =>
        have last : (List.replicate (climbs + 1) Component.parent).foldl foldStep [] =
            foldStep (List.replicate climbs .parent) .parent := by
          rw [List.replicate_succ', List.foldl_append, ih]
          rfl
        rw [last]
        cases climbs <;> rfl
  obtain ⟨names, climbs, shape⟩ := left
  have down : ∀ step ∈ (names.map Component.normal).reverse, ∃ name, step = .normal name := by
    intro step member
    obtain ⟨name, -, same⟩ := List.mem_map.mp (List.mem_reverse.mp member)
    exact ⟨name, same.symm⟩
  rcases shape with same | same
  · rw [← List.reverse_reverse steps, same, List.reverse_append, fold_append_names _ _ down,
      List.reverse_replicate, fold, top, List.reverse_replicate]
  · rw [← List.reverse_reverse steps, same, List.reverse_append, fold_append_names _ _ down]
    rfl

structure Settled (steps : List Component) : Prop where
  tidy : Tidy steps
  left : Folded steps.reverse

theorem settled_fold {steps : List Component} (tidy : Tidy steps) : Settled (fold steps) :=
  ⟨fold_tidy steps tidy, fold_folded tidy⟩

theorem Tidy.front {front : List Component} {last : Component} (tidy : Tidy (front ++ [last])) :
    Tidy front := by
  obtain ⟨rest, plain, shape⟩ := tidy
  rcases List.eq_nil_or_concat rest with rfl | ⟨others, final, rfl⟩
  · rcases shape with same | same
    · simp at same
    · refine ⟨[], nofun, .inl ?_⟩
      cases front <;> simp at same ⊢
  · rw [List.concat_eq_append] at plain shape
    have first : ∀ step ∈ others, Plain step := fun step member =>
      plain step (List.mem_append_left _ member)
    rcases shape with same | same
    · exact ⟨others, first, .inl (List.append_inj' same rfl).1⟩
    · exact ⟨others, first, .inr (List.append_inj' (same.trans List.cons_append.symm) rfl).1⟩

theorem Tidy.last {front : List Component} {last : Component} (tidy : Tidy (front ++ [last])) :
    front ++ [last] = [.root] ∨ Plain last := by
  obtain ⟨rest, plain, same | same⟩ := tidy
  · exact .inr (plain last (same ▸ List.mem_append_right _ List.mem_cons_self))
  · rcases List.eq_nil_or_concat rest with rfl | ⟨others, final, rfl⟩
    · exact .inl same
    · rw [List.concat_eq_append] at plain same
      have inside := (List.append_inj' (same.trans List.cons_append.symm) rfl).2
      rw [(List.cons.inj inside).1]
      exact .inr (plain final (List.mem_append_right _ List.mem_cons_self))

theorem Settled.front {front : List Component} {last : Component}
    (settled : Settled (front ++ [last])) : Settled front := by
  refine ⟨settled.tidy.front, ?_⟩
  have left := settled.left
  rw [List.reverse_append] at left
  exact left.tail

theorem Settled.concat {front : List Component} {name : List Char} (settled : Settled front)
    (plain : Plain (.normal name)) : Settled (front ++ [.normal name]) := by
  have below : (front ++ [Component.normal name]).reverse = foldStep front.reverse (.normal name) := by
    rw [List.reverse_append]
    rfl
  constructor
  · rw [← List.reverse_reverse (front ++ _), below]
    refine foldStep_tidy front.reverse ?_ _ plain
    rw [List.reverse_reverse]
    exact settled.tidy
  · rw [below]
    exact foldStep_folded settled.left plain

end Steps

section Texts

theorem ofComponents_components {steps : List Component} (tidy : Tidy steps) :
    (ofComponents steps).components = steps := by
  rw [ofComponents, components, String.toList_ofList, componentsOf_eq, leading_textOf _ tidy,
    solid_textOf _ tidy, List.nil_append]

theorem normalize_ofComponents {steps : List Component} (settled : Settled steps) :
    (ofComponents steps).normalize = ofComponents steps := by
  have same : (ofComponents steps).solid = steps := by
    rw [ofComponents, solid, String.toList_ofList, solid_textOf _ settled.tidy]
  rw [normalize_eq, same, fold_of_folded settled.left]

theorem normal_iff (path : Path) :
    path.normalize = path ↔ ∃ steps, Settled steps ∧ path = ofComponents steps := by
  constructor
  · intro normal
    exact ⟨fold path.solid, settled_fold path.solid_tidy, normal.symm.trans path.normalize_eq⟩
  · rintro ⟨steps, settled, rfl⟩
    exact normalize_ofComponents settled

theorem normalize_normalize (path : Path) : path.normalize.normalize = path.normalize :=
  (normal_iff _).mpr ⟨_, settled_fold path.solid_tidy, path.normalize_eq⟩

theorem textOf_concat (front : List Component) :
    ∃ start, ∀ step ≠ .root, textOf (front ++ [step]) = start ++ step.text := by
  cases front with
  | nil =>
      refine ⟨[], fun step apart => ?_⟩
      cases step with
      | root => contradiction
      | _ => rfl
  | cons first rest =>
      obtain ⟨start, whole⟩ := Text.joinPieces_concat '/' (rest.map Component.text)
      obtain ⟨start', whole'⟩ := Text.joinPieces_concat '/' ((first :: rest).map Component.text)
      cases first with
      | root =>
          refine ⟨'/' :: start, fun step _ => ?_⟩
          rw [List.cons_append, textOf, List.map_append, List.map_singleton, whole]
          rfl
      | _ =>
          refine ⟨start', fun step _ => ?_⟩
          rw [List.cons_append, textOf, ← List.cons_append, List.map_append, List.map_singleton, whole']
          simp

/-- Where there is a step already, a slash stands in front of a name behind it. -/
theorem textOf_append_name {steps rest : List Component} (plain : ∀ step ∈ rest, Plain step)
    (some : rest ≠ []) (shape : steps = rest ∨ steps = .root :: rest) (name : List Char) :
    textOf (steps ++ [.normal name]) = textOf steps ++ '/' :: name := by
  have more : rest.map Component.text ≠ [] := by simpa using some
  have inner := Text.joinPieces_append '/' (rest.map Component.text) [name] more (List.cons_ne_nil _ _)
  rcases shape with rfl | rfl
  · obtain ⟨first, others, rfl⟩ := List.exists_cons_of_ne_nil some
    have apart : first ≠ .root := by
      rintro rfl
      exact absurd (plain .root List.mem_cons_self).1 (by decide)
    rw [List.cons_append, textOf, textOf, ← List.cons_append, List.map_append]
    · exact inner
    · exact fun others same => apart (List.cons.inj same).1
    · exact fun others same => apart (List.cons.inj same).1
  · rw [List.cons_append, textOf, textOf, List.map_append, List.cons_append]
    exact congrArg ('/' :: ·) inner

theorem join_ofComponents {steps : List Component} (tidy : Tidy steps) {name : List Char}
    (plain : Plain (.normal name)) :
    (ofComponents steps).join (String.ofList name) = ofComponents (steps ++ [.normal name]) := by
  unfold join
  rw [if_neg (by simpa using plain.relative)]
  obtain ⟨rest, solid, shape⟩ := tidy
  rcases List.eq_nil_or_concat rest with rfl | ⟨others, final, rfl⟩
  · rcases shape with rfl | rfl
    · rw [if_pos (by rfl)]
      exact congrArg Path.mk (String.empty_append)
    · rw [if_pos (by rfl)]
      exact congrArg Path.mk String.ofList_append.symm
  · rw [List.concat_eq_append] at solid shape
    have last := solid final (List.mem_append_right _ List.mem_cons_self)
    have apart : final ≠ .root := by
      rintro rfl
      exact absurd last.1 (by decide)
    obtain ⟨start, whole⟩ : ∃ start, textOf steps = start ++ final.text := by
      rcases shape with rfl | rfl
      · obtain ⟨start, whole⟩ := textOf_concat others
        exact ⟨start, whole final apart⟩
      · obtain ⟨start, whole⟩ := textOf_concat (.root :: others)
        exact ⟨start, whole final apart⟩
    have written : final.text ≠ [] := by
      intro none
      have read := last.1
      rw [none] at read
      contradiction
    have text : (ofComponents steps).text.toList = textOf steps := String.toList_ofList
    have open_ : ¬ ((ofComponents steps).text == "" ||
        (ofComponents steps).text.toList.getLast? == some '/') = true := by
      rw [Bool.or_eq_true, beq_iff_eq, beq_iff_eq, ← String.toList_eq_nil_iff, text, whole,
        List.getLast?_append_of_ne_nil _ written]
      rintro (none | slash)
      · exact written (List.append_eq_nil_iff.mp none).2
      · exact absurd (last.2 '/' (List.mem_of_getLast? slash)) (by decide)
    rw [if_neg open_]
    refine congrArg Path.mk (String.toList_inj.mp ?_)
    rw [String.toList_append, String.toList_append, text, String.toList_ofList, String.toList_ofList,
      textOf_append_name solid (by simp) shape name, List.append_assoc]
    exact String.toList_ofList.symm

theorem normalize_join_name {base : Path} (normal : base.normalize = base) {name : List Char}
    (plain : Plain (.normal name)) :
    (base.join (String.ofList name)).normalize = base.join (String.ofList name) := by
  obtain ⟨steps, settled, rfl⟩ := (normal_iff base).mp normal
  rw [join_ofComponents settled.tidy plain]
  exact normalize_ofComponents (settled.concat plain)

theorem extend_ofComponents {front : List Component} {last : Component} (plain : Plain last)
    (added : String) : Path.mk ((ofComponents (front ++ [last])).text ++ added) =
      ofComponents (front ++ [.normal (last.text ++ added.toList)]) := by
  obtain ⟨start, whole⟩ := textOf_concat front
  have apart : last ≠ .root := by
    rintro rfl
    exact absurd plain.1 (by decide)
  refine congrArg Path.mk (String.toList_inj.mp ?_)
  rw [String.toList_append, ofComponents, String.toList_ofList, String.toList_ofList, whole last apart,
    whole (.normal _) (by simp), List.append_assoc]
  rfl

theorem plain_extended {last : Component} (plain : Plain last) {extension : List Char}
    (dotted : extension.head? = some '.') (whole : '/' ∉ extension) :
    Plain (.normal (last.text ++ extension)) := by
  obtain ⟨more, rfl⟩ := List.head?_eq_some_iff.mp dotted
  have written := (ofPiece_eq_none last.text).not.mp (by rw [plain.1]; exact nofun)
  obtain ⟨some, proper⟩ := not_or.mp written
  obtain ⟨first, others, text⟩ := List.exists_cons_of_ne_nil some
  rw [text] at proper
  have piece : Component.ofPiece? (last.text ++ '.' :: more) = .some (.normal (last.text ++ '.' :: more)) := by
    rw [ofPiece_eq_normal, text]
    refine ⟨by simp, by simp, fun same => ?_⟩
    obtain ⟨rfl, short⟩ := List.cons.inj same
    cases others with
    | nil => exact proper rfl
    | cons second rest => simp at short
  refine ⟨piece, fun character member => ?_⟩
  rcases List.mem_append.mp member with inside | behind
  · exact plain.2 character inside
  · exact beq_eq_false_iff_ne.mpr fun same => whole (same ▸ behind)

end Texts

end Path

namespace FileTree

variable (tree : FileTree) {links : Nat} {place final : List Name} {rest : List Step}

theorem follow_nil (found : tree.follow links place [] = .ok final) : final = place := by
  cases links <;> exact (Except.ok.inj found).symm

theorem follow_stay (found : tree.follow links place (.stay :: rest) = .ok final) :
    tree.entry? place = some .directory ∧ tree.follow links place rest = .ok final := by
  cases links <;>
  · unfold follow walk at found
    split at found
    · contradiction
    · rename_i inside
      exact ⟨by simpa using inside, found⟩

theorem follow_up (found : tree.follow links place (.up :: rest) = .ok final) :
    tree.entry? place = some .directory ∧ tree.follow links place.dropLast rest = .ok final := by
  cases links <;>
  · unfold follow walk at found
    split at found
    · contradiction
    · rename_i inside
      exact ⟨by simpa using inside, found⟩

theorem isFile_ok {path : Path} (file : tree.isFile path = true) :
    ∃ place bytes, tree.locate path = .ok place ∧ tree.entry? place = some (.file bytes) := by
  obtain ⟨bytes, read⟩ := (tree.isFile_iff path).mp file
  obtain ⟨place, located, held⟩ := tree.look_ok path _ ((tree.readBytes_ok path bytes).mp read)
  exact ⟨place, bytes, located, held⟩

theorem not_isFile {path : Path} (inside : ∀ start place,
    (if path.isAbsolute then some [] else tree.workingDirectory) = some start →
      tree.follow linkLimit start (stepsOf path.text.toList) = .ok place →
        tree.entry? place = some .directory) : tree.isFile path = false := by
  rw [Bool.eq_false_iff]
  intro file
  obtain ⟨place, bytes, located, held⟩ := tree.isFile_ok file
  obtain ⟨-, -, start, begins, follows⟩ := tree.locate_ok path place located
  rw [inside start place begins follows] at held
  exact nomatch Option.some.inj held

theorem not_isFile_here : tree.isFile ⟨"."⟩ = false := by
  refine tree.not_isFile fun start place _ follows => ?_
  obtain ⟨inside, ends⟩ := tree.follow_stay (show tree.follow linkLimit start [.stay] = _ from follows)
  rwa [tree.follow_nil ends]

theorem not_isFile_top : tree.isFile ⟨"/."⟩ = false := by
  refine tree.not_isFile fun start place _ follows => ?_
  obtain ⟨-, follows⟩ :=
    tree.follow_stay (show tree.follow linkLimit start [.stay, .stay] = _ from follows)
  obtain ⟨inside, ends⟩ := tree.follow_stay follows
  rwa [tree.follow_nil ends]

theorem not_isFile_above : tree.isFile ⟨"/.."⟩ = false := by
  refine tree.not_isFile fun start place begins follows => ?_
  obtain rfl : [] = start := Option.some.inj begins
  obtain ⟨-, follows⟩ :=
    tree.follow_stay (show tree.follow linkLimit [] [.stay, .up] = _ from follows)
  obtain ⟨-, ends⟩ := tree.follow_up follows
  rw [tree.follow_nil ends]
  rfl

end FileTree

namespace Path

variable {base : Path} (normal : base.normalize = base) {extension : String}
  (dotted : extension.toList.head? = some '.') (whole : '/' ∉ extension.toList)

include normal dotted whole

omit normal in
theorem plain_dotted (here : extension ≠ ".") (above : extension ≠ "..") :
    Plain (.normal extension.toList) := by
  have apart : ∀ other : String, extension ≠ other → extension.toList ≠ other.toList :=
    fun other differs same => differs (String.toList_inj.mp same)
  have written : extension.toList ≠ [] := by
    intro none
    rw [none] at dotted
    contradiction
  constructor
  · exact (ofPiece_eq_normal _).mpr ⟨written, apart "." here, apart ".." above⟩
  · exact fun character member => beq_eq_false_iff_ne.mpr fun same => whole (same ▸ member)

/-- A file under a folded path with an extension behind it has a folded path. -/
theorem normalize_extended (tree : FileTree) (file : tree.isFile ⟨base.text ++ extension⟩ = true) :
    (Path.mk (base.text ++ extension)).normalize = ⟨base.text ++ extension⟩ := by
  obtain ⟨steps, settled, rfl⟩ := (normal_iff base).mp normal
  -- Without a name in front, an extension of dots alone would be read as a step.
  by_cases short : steps = [] ∨ steps = [.root]
  · have added : Path.mk ((ofComponents steps).text ++ extension) =
        ofComponents (steps ++ [.normal extension.toList]) := by
      refine congrArg Path.mk (String.toList_inj.mp ?_)
      rw [String.toList_append, ofComponents, String.toList_ofList, String.toList_ofList]
      rcases short with rfl | rfl <;> rfl
    by_cases here : extension = "."
    · subst here
      rcases short with rfl | rfl
      · exact absurd file (Bool.eq_false_iff.mp tree.not_isFile_here)
      · exact absurd file (Bool.eq_false_iff.mp tree.not_isFile_top)
    by_cases above : extension = ".."
    · subst above
      rcases short with rfl | rfl
      · rfl
      · exact absurd file (Bool.eq_false_iff.mp tree.not_isFile_above)
    rw [added]
    exact normalize_ofComponents (settled.concat (plain_dotted dotted whole here above))
  · rcases List.eq_nil_or_concat steps with none | ⟨front, last, rfl⟩
    · exact absurd (.inl none) short
    · rw [List.concat_eq_append] at settled short ⊢
      have plain := settled.tidy.last.resolve_left fun root => short (.inr root)
      rw [extend_ofComponents plain]
      exact normalize_ofComponents (settled.front.concat (plain_extended plain dotted whole))

omit normal in
theorem plain_index : Plain (.normal ("index" ++ extension).toList) := by
  rw [String.toList_append]
  have named : PlainName "index".toList := by decide
  exact plain_extended named.plain dotted whole

theorem normalize_index :
    (base.join ("index" ++ extension)).normalize = base.join ("index" ++ extension) := by
  have joined := normalize_join_name normal (plain_index dotted whole)
  rwa [String.ofList_toList] at joined

end Path

/-- Extensions that can be put behind a name: a dot stands in front, and no slash is in them. -/
def Attachable (extensions : List String) : Prop :=
  ∀ extension ∈ extensions, extension.toList.head? = some '.' ∧ '/' ∉ extension.toList

namespace Resolver

theorem extensions_of_make {settings : ResolverSettings} {resolver : Resolver}
    (made : make settings = .ok resolver) : resolver.extensions = settings.extensions ∧
      ∀ extension ∈ resolver.extensions, extension.toList.head? = some '.' := by
  unfold make at made
  split at made
  · contradiction
  · split at made
    · contradiction
    · rename_i dotted
      obtain rfl := Except.ok.inj made
      refine ⟨rfl, fun extension member => ?_⟩
      have begins : Text.startsWith extension "." = true := by
        simpa using List.find?_eq_none.mp dotted extension member
      obtain ⟨rest, cut⟩ := Option.isSome_iff_exists.mp begins
      rw [(Text.afterStart_iff _ _ _).mp cut]
      rfl

variable {resolver : Resolver} (extensions : Attachable resolver.extensions) {tree : FileTree}

theorem candidate_normal {importer base : Path} {specifier : List Char}
    (found : resolver.candidate? importer specifier = some base) : base.normalize = base := by
  unfold candidate? at found
  split at found
  · rw [← Option.some.inj found]
    exact Path.normalize_normalize _
  · split at found
    · rw [← Option.some.inj found]
      exact Path.normalize_normalize _
    · contradiction

include extensions

theorem resolve_normal {importer target : Path} {specifier : String}
    (found : (resolver.resolve tree importer specifier).file? = some target) :
    target.normalize = target := by
  have file := resolver.resolve_isFile tree importer specifier target found
  unfold resolve at found
  split at found
  · contradiction
  · rename_i base candidate
    have normal := candidate_normal candidate
    split at found
    · rename_i probed
      obtain rfl := Option.some.inj found
      rcases List.mem_append.mp (List.mem_of_find?_eq_some probed) with near | index
      · rcases List.mem_cons.mp near with rfl | extended
        · exact normal
        · obtain ⟨extension, listed, rfl⟩ := List.mem_map.mp extended
          obtain ⟨dotted, whole⟩ := extensions extension listed
          exact Path.normalize_extended normal dotted whole tree file
      · obtain ⟨extension, listed, rfl⟩ := List.mem_map.mp index
        obtain ⟨dotted, whole⟩ := extensions extension listed
        exact Path.normalize_index normal dotted whole
    · contradiction

end Resolver

namespace Reachability

namespace Walk

variable {resolver : Resolver} {tree : FileTree} {sourceRoot : Path}

theorem mem_follow_nodes (importer : Nat) (edges : List ImportEdge) (walk : Walk) {node : Path}
    (member : node ∈ (edges.foldl (follow sourceRoot importer) walk).graph.nodes) :
    node ∈ walk.graph.nodes ∨ ∃ edge ∈ edges, followed? sourceRoot edge = some node := by
  induction edges generalizing walk with
  | nil => exact .inl member
  | cons edge rest ih =>
      rcases ih _ member with old | ⟨later, listed, led⟩
      · unfold follow at old
        split at old
        · exact .inl old
        · rename_i target led
          rw [ImportGraph.addEdge_nodes] at old
          refine (walk.graph.mem_addFile_nodes target old).imp_right fun same => ?_
          exact ⟨edge, List.mem_cons_self, same ▸ led⟩
      · exact .inr ⟨later, List.mem_cons_of_mem edge listed, led⟩

/-- A visit puts down the visited file and the files that its imports lead to. -/
theorem mem_visit_nodes (walk : Walk) (path : Path) {node : Path}
    (member : node ∈ (walk.visit resolver tree sourceRoot path).graph.nodes) :
    node ∈ walk.graph.nodes ∨ node = path ∨ Follows resolver tree sourceRoot path node := by
  rcases mem_follow_nodes _ _ { walk with graph := (walk.graph.addFile path).1 } member with old | led
  · exact (walk.graph.mem_addFile_nodes path old).imp_right .inl
  · exact .inr (.inr ((mem_knownImports resolver tree sourceRoot path node).mp led))

structure All (holds : Path → Prop) (walk : Walk) : Prop where
  waits : ∀ path ∈ walk.waiting, holds path
  visits : ∀ path ∈ walk.files.keys, holds path
  nodes : ∀ path ∈ walk.graph.nodes, holds path

variable {holds : Path → Prop} (spreads : ∀ importer target, holds importer →
  Follows resolver tree sourceRoot importer target → holds target)

include spreads

theorem turn_all {walk : Walk} (all : walk.All holds) : (walk.turn resolver tree sourceRoot).All holds := by
  unfold turn
  split
  · exact all
  · rename_i path rest waiting
    obtain ⟨waits, visits, nodes⟩ := all
    rw [waiting] at waits
    obtain ⟨first, others⟩ := List.forall_mem_cons.mp waits
    by_cases known : walk.files.contains path = true
    · rw [if_pos known]
      exact ⟨others, visits, nodes⟩
    · rw [if_neg known]
      constructor
      · intro target member
        rcases (mem_visit_waiting resolver tree sourceRoot _ path target).mp member with
          old | ⟨-, follows⟩
        · exact others target old
        · exact spreads path target first follows
      · intro other member
        rw [visit_files, SortedMap.mem_keys_insert_of_fresh _ _ _ (by simpa using known)] at member
        rcases member with rfl | old
        · exact first
        · exact visits other old
      · intro node member
        rcases mem_visit_nodes _ path member with old | rfl | follows
        · exact nodes node old
        · exact first
        · exact spreads path node first follows

theorem turns_all (turns : Nat) {walk : Walk} (all : walk.All holds) :
    ((turn resolver tree sourceRoot)^[turns] walk).All holds := by
  induction turns generalizing walk with
  | zero => exact all
  | succ turns ih => exact ih (turn_all spreads all)

end Walk

end Reachability

namespace ReachableSet

open Reachability

theorem build_normal {resolver : Resolver} (extensions : Attachable resolver.extensions)
    {tree : FileTree} {sourceRoot : String} {entries : List String} {reached : ReachableSet}
    (built : build resolver tree sourceRoot entries = .ok reached) :
    ∀ path ∈ reached.files.keys, path.normalize = path := by
  obtain ⟨-, turns, -, rfl⟩ := build_walked resolver tree sourceRoot entries reached built
  have spreads : ∀ importer target : Path, importer.normalize = importer →
      Follows resolver tree (resolver.root.configured sourceRoot) importer target →
        target.normalize = target := by
    intro importer target _ follows
    obtain ⟨specifier, led⟩ := follows_resolved resolver tree _ importer target follows
    exact Resolver.resolve_normal extensions led
  refine (Walk.turns_all spreads turns ⟨?_, List.forall_mem_nil _, List.forall_mem_nil _⟩).visits
  intro path member
  obtain ⟨entry, -, rfl⟩ := List.mem_map.mp member
  exact Path.normalize_normalize _

end ReachableSet

end UiContract
