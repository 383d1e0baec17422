import Mathlib.Logic.Function.Iterate
import UiContract.Graph.Reachability
import UiContract.Proofs.Places
import UiContract.Proofs.SortedMap

/-!
What the walk of `build` over the imports reaches. The files that wait or were visited are files that lie in
every set with the entries that following does not leave; each visited file has had its imports read, and
what they lead to waits or was visited. Since only finitely many paths lead to files, the walk ends, and then
what was visited is the least such set.
-/
namespace UiContract

namespace Resolver

variable (resolver : Resolver) (tree : FileTree)

theorem isRelative_head (specifier : List Char) (relative : isRelative specifier = true) :
    specifier.head? ≠ some '/' := by
  intro absolute
  obtain ⟨rest, rfl⟩ := List.head?_eq_some_iff.mp absolute
  simp [isRelative, List.isPrefixOf] at relative

/-- What a specifier leads to does not depend on how the path of the importing file is written. -/
theorem resolve_congr {first second : Path} (same : first.components = second.components)
    (specifier : String) : resolver.resolve tree first specifier =
      resolver.resolve tree second specifier := by
  have candidates : resolver.candidate? first (clean specifier) =
      resolver.candidate? second (clean specifier) := by
    unfold candidate?
    split
    · rfl
    · split
      · rename_i relative
        have below := isRelative_head _ relative
        rw [← String.toList_ofList (l := clean specifier)] at below
        exact congrArg some
          (Path.normalize_join_congr (Path.parent_congr same resolver.root) _ below)
      · rfl
  unfold resolve
  rw [candidates]

theorem resolve_isFile (importer : Path) (specifier : String) (target : Path)
    (found : (resolver.resolve tree importer specifier).file? = some target) :
    tree.isFile target = true := by
  unfold resolve at found
  split at found
  · contradiction
  · split at found
    · rename_i probe
      rw [← Option.some.inj found]
      exact List.find?_some probe
    · contradiction

end Resolver

namespace ImportEdge

variable (resolver : Resolver) (tree : FileTree)

theorem ofDeclaration_congr {first second : Path} (same : first.components = second.components)
    (declaration : ImportDeclaration) :
    ofDeclaration resolver tree second declaration =
      { ofDeclaration resolver tree first declaration with importer := second } := by
  unfold ofDeclaration
  rw [resolver.resolve_congr tree same]

theorem language_congr {first second : Path} (same : first.components = second.components) :
    Language.ofPath first = Language.ofPath second := by
  unfold Language.ofPath Path.extension? Path.fileName?
  rw [same]

/-- Two writings of a path have the same imports in the same text, or are faulty alike. -/
theorem extract_congr {first second : Path} (same : first.components = second.components)
    (text : String) : extract resolver tree second text =
      (extract resolver tree first text).map
        (List.map fun edge => { edge with importer := second }) := by
  unfold extract
  rw [← language_congr same]
  dsimp only
  split
  · rfl
  · split
    · rfl
    · rw [Except.map, List.map_map]
      refine congrArg Except.ok (List.map_congr_left fun declaration _ => ?_)
      exact ofDeclaration_congr resolver tree same declaration

/-- The imports of a text are its declarations with what they lead to, if it stands for a source file. -/
theorem extract_ok {importer : Path} {text : String} {edges : List ImportEdge}
    (read : extract resolver tree importer text = .ok edges) :
    edges = if (Language.ofPath importer).isScript then
      (ImportDeclaration.inOrder (Script.parse (Language.ofPath importer) text.toList)).map
        (ofDeclaration resolver tree importer)
    else [] := by
  unfold extract at read
  dsimp only at read
  split at read
  · rename_i other
    rw [if_neg (by simpa using other)]
    exact (Except.ok.inj read).symm
  · rename_i script
    split at read
    · contradiction
    · rw [if_pos (by simpa using script)]
      exact (Except.ok.inj read).symm

theorem mem_extract {importer : Path} {text : String} {edges : List ImportEdge}
    (read : extract resolver tree importer text = .ok edges) {edge : ImportEdge}
    (member : edge ∈ edges) :
    ∃ declaration ∈ ImportDeclaration.inOrder (Script.parse (Language.ofPath importer) text.toList),
      ofDeclaration resolver tree importer declaration = edge := by
  rw [extract_ok resolver tree read] at member
  split at member
  · exact List.mem_map.mp member
  · contradiction

theorem extract_resolved (importer : Path) (text : String) (edges : List ImportEdge)
    (read : extract resolver tree importer text = .ok edges) (edge : ImportEdge)
    (member : edge ∈ edges) (target : Path) (found : edge.resolved = some target) :
    ∃ specifier, (resolver.resolve tree importer specifier).file? = some target := by
  obtain ⟨declaration, -, rfl⟩ := mem_extract resolver tree read member
  exact ⟨declaration.specifier, found⟩

end ImportEdge

namespace Reachability

variable (resolver : Resolver) (tree : FileTree) (sourceRoot : Path)

def importsOf (path : Path) : FileImports :=
  (SourceFile.load tree resolver.root path).declaredImports resolver tree

/-- The walk goes from one file to another: the imports of the first can be read, and one of them is
no mere type and leads to the second, which lies below the source root. -/
def Follows (importer target : Path) : Prop :=
  ∃ edges, importsOf resolver tree importer = .ok edges ∧ ∃ edge ∈ edges,
    edge.typeOnly = false ∧ edge.resolved = some target ∧ target.startsWith sourceRoot = true

theorem importsOf_ok (path : Path) (edges : List ImportEdge)
    (read : importsOf resolver tree path = .ok edges) (edge : ImportEdge) (member : edge ∈ edges) :
    ∃ bytes text, tree.readBytes path = .ok bytes ∧
      SourceFile.contentOf (Language.ofPath path) (.ok bytes) = .text text ∧
      ImportEdge.extract resolver tree path text = .ok edges := by
  unfold importsOf SourceFile.declaredImports SourceFile.load at read
  dsimp only at read
  split at read
  · rename_i text content
    cases bytes : tree.readBytes path with
    | error reason =>
        rw [bytes] at content
        contradiction
    | ok bytes' =>
        rw [bytes] at content
        refine ⟨bytes', text, rfl, content, ?_⟩
        split at read
        · rename_i found extracted
          rw [← Except.ok.inj read]
          exact extracted
        · contradiction
  · rw [← Except.ok.inj read] at member
    contradiction
  · split at read
    · contradiction
    · rw [← Except.ok.inj read] at member
      contradiction

theorem follows_resolved (importer target : Path)
    (follows : Follows resolver tree sourceRoot importer target) :
    ∃ specifier, (resolver.resolve tree importer specifier).file? = some target := by
  obtain ⟨edges, read, edge, member, -, found, -⟩ := follows
  obtain ⟨bytes, text, -, -, extracted⟩ := importsOf_ok resolver tree importer edges read edge member
  exact ImportEdge.extract_resolved resolver tree importer text edges extracted edge member target found

theorem follows_isFile (importer target : Path)
    (follows : Follows resolver tree sourceRoot importer target) :
    tree.isFile target = true := by
  obtain ⟨specifier, led⟩ := follows_resolved resolver tree sourceRoot importer target follows
  exact resolver.resolve_isFile tree importer specifier target led

theorem load_content {first second : Path} (same : first.components = second.components)
    (file : tree.isFile first = true) (file' : tree.isFile second = true) (root : Path) :
    (SourceFile.load tree root second).content = (SourceFile.load tree root first).content := by
  obtain ⟨bytes, opened⟩ := (tree.isFile_iff first).mp file
  obtain ⟨bytes', opened'⟩ := (tree.isFile_iff second).mp file'
  unfold SourceFile.load
  dsimp only
  rw [opened, opened', tree.readBytes_congr same opened opened', ImportEdge.language_congr same]

theorem importsOf_congr {first second : Path} (same : first.components = second.components)
    (file : tree.isFile first = true) (file' : tree.isFile second = true) :
    importsOf resolver tree second = (importsOf resolver tree first).map
      (List.map fun edge => { edge with importer := second }) := by
  unfold importsOf SourceFile.declaredImports
  rw [load_content tree same file file']
  cases (SourceFile.load tree resolver.root first).content with
  | text text =>
      dsimp only [SourceFile.load]
      rw [ImportEdge.extract_congr resolver tree same text]
      cases ImportEdge.extract resolver tree first text <;> rfl
  | binary => rfl
  | unreadable reason =>
      have language : (SourceFile.load tree resolver.root second).language =
          (SourceFile.load tree resolver.root first).language :=
        (ImportEdge.language_congr same).symm
      dsimp only
      rw [language]
      split <;> rfl

/-- A file is left in the same ways however its path is written, as long as the path is written so
that it leads to the file. -/
theorem follows_congr {importer other target : Path}
    (same : importer.components = other.components) (file : tree.isFile other = true)
    (follows : Follows resolver tree sourceRoot importer target) :
    Follows resolver tree sourceRoot other target := by
  obtain ⟨edges, read, edge, member, plain, found, below⟩ := follows
  obtain ⟨bytes, text, opened, -, -⟩ := importsOf_ok resolver tree importer edges read edge member
  have again := importsOf_congr resolver tree same ((tree.isFile_iff importer).mpr ⟨bytes, opened⟩) file
  rw [read] at again
  exact ⟨_, again, { edge with importer := other }, List.mem_map.mpr ⟨edge, member, rfl⟩, plain, found,
    below⟩

theorem followed_iff (edge : ImportEdge) (target : Path) :
    followed? sourceRoot edge = some target ↔
      edge.typeOnly = false ∧ edge.resolved = some target ∧
        target.startsWith sourceRoot = true := by
  unfold followed? ImportEdge.isFollowable
  cases edge.resolved with
  | none => simp
  | some file =>
      simp only [Option.isSome_some, Bool.and_true, Option.ite_none_right_eq_some,
        Bool.and_eq_true, Bool.not_eq_true', Option.some.injEq]
      constructor
      · rintro ⟨⟨plain, below⟩, rfl⟩
        exact ⟨plain, rfl, below⟩
      · rintro ⟨plain, rfl, below⟩
        exact ⟨⟨plain, below⟩, rfl⟩

/-- A set of paths that holds the entries and that following does not leave. However a path is
written, it is the same member. -/
structure Closed (entries : List Path) (members : Path → Prop) : Prop where
  entry : ∀ path ∈ entries, members path
  follow : ∀ importer target, members importer →
    Follows resolver tree sourceRoot importer target → members target
  same : ∀ path other, path.same other = true → members path → members other

namespace Walk

def visited (path : Path) : SourceFile :=
  { SourceFile.load tree resolver.root path with imports := some (importsOf resolver tree path) }

theorem visited_imports (path : Path) : (visited resolver tree path).imports =
    some ((visited resolver tree path).declaredImports resolver tree) := by
  unfold visited importsOf SourceFile.declaredImports
  rfl

theorem mem_knownImports (path target : Path) :
    (∃ edge ∈ (visited resolver tree path).knownImports,
      followed? sourceRoot edge = some target) ↔
      Follows resolver tree sourceRoot path target := by
  simp only [followed_iff]
  unfold SourceFile.knownImports visited Follows
  dsimp only
  cases importsOf resolver tree path with
  | error reason => simp
  | ok edges => simp

theorem follow_files (importer : Nat) (edges : List ImportEdge) (walk : Walk) :
    (edges.foldl (Walk.follow sourceRoot importer) walk).files = walk.files := by
  induction edges generalizing walk with
  | nil => rfl
  | cons edge rest ih =>
      rw [List.foldl_cons, ih]
      unfold follow
      split <;> rfl

theorem mem_follow_waiting (importer : Nat) (edges : List ImportEdge) (walk : Walk)
    (target : Path) :
    target ∈ (edges.foldl (Walk.follow sourceRoot importer) walk).waiting ↔
      target ∈ walk.waiting ∨ walk.files.contains target = false ∧
        ∃ edge ∈ edges, followed? sourceRoot edge = some target := by
  induction edges generalizing walk with
  | nil => simp
  | cons edge rest ih =>
      have files := follow_files sourceRoot importer [edge] walk
      rw [List.foldl_cons, List.foldl_nil] at files
      rw [List.foldl_cons, ih, files, List.exists_mem_cons_iff]
      have waits : target ∈ (follow sourceRoot importer walk edge).waiting ↔
          target ∈ walk.waiting ∨ walk.files.contains target = false ∧
            followed? sourceRoot edge = some target := by
        unfold follow
        cases led : followed? sourceRoot edge with
        | none => simp
        | some file =>
            dsimp only
            by_cases known : walk.files.contains file = true
            · rw [if_pos known]
              constructor
              · exact .inl
              · rintro (old | ⟨fresh, same⟩)
                · exact old
                · rw [← Option.some.inj same, known] at fresh
                  contradiction
            · rw [if_neg known, List.mem_cons]
              constructor
              · rintro (rfl | old)
                · exact .inr ⟨by simpa using known, rfl⟩
                · exact .inl old
              · rintro (old | ⟨-, same⟩)
                · exact .inr old
                · exact .inl (Option.some.inj same).symm
      rw [waits, or_assoc, ← and_or_left]

theorem visit_files (walk : Walk) (path : Path) :
    (walk.visit resolver tree sourceRoot path).files =
      walk.files.insert path (visited resolver tree path) :=
  congrArg (SortedMap.insert · path (visited resolver tree path))
    (follow_files sourceRoot _ _ _)

theorem mem_visit_waiting (walk : Walk) (path target : Path) :
    target ∈ (walk.visit resolver tree sourceRoot path).waiting ↔
      target ∈ walk.waiting ∨ walk.files.contains target = false ∧
        Follows resolver tree sourceRoot path target := by
  rw [← mem_knownImports]
  exact mem_follow_waiting sourceRoot _ _ _ target

def turn (walk : Walk) : Walk :=
  match walk.waiting with
  | [] => walk
  | path :: rest =>
      if walk.files.contains path then { walk with waiting := rest }
      else Walk.visit resolver tree sourceRoot { walk with waiting := rest } path

end Walk

section Invariant

variable (entries : List Path)

def Reached (path : Path) : Prop :=
  tree.isFile path = true ∧
    ∀ members, Closed resolver tree sourceRoot entries members → members path

theorem reached_follow {importer target : Path}
    (reached : Reached resolver tree sourceRoot entries importer)
    (follows : Follows resolver tree sourceRoot importer target) :
    Reached resolver tree sourceRoot entries target :=
  ⟨follows_isFile resolver tree sourceRoot importer target follows, fun members closed =>
    closed.follow importer target (reached.2 members closed) follows⟩

namespace Walk

def Knows (walk : Walk) (path : Path) : Prop :=
  path ∈ walk.waiting ∨ walk.files.contains path = true

structure Sound (walk : Walk) : Prop where
  waits : ∀ path ∈ walk.waiting, Reached resolver tree sourceRoot entries path
  visits : ∀ path ∈ walk.files.keys, Reached resolver tree sourceRoot entries path
  read : ∀ entry ∈ walk.files.entries, entry.2 = visited resolver tree entry.1
  seeds : ∀ path ∈ entries, walk.Knows path
  follow : ∀ path ∈ walk.files.keys, ∀ target,
    Follows resolver tree sourceRoot path target → walk.Knows target

variable {resolver tree sourceRoot entries}

theorem knows_skip {walk : Walk} {path : Path} {rest : List Path}
    (waiting : walk.waiting = path :: rest) (known : walk.files.contains path = true)
    {other : Path} (knows : walk.Knows other) : { walk with waiting := rest : Walk }.Knows other := by
  rcases knows with waits | old
  · rw [waiting] at waits
    rcases List.mem_cons.mp waits with rfl | later
    · exact .inr known
    · exact .inl later
  · exact .inr old

theorem knows_visit {walk : Walk} {path : Path} {rest : List Path}
    (waiting : walk.waiting = path :: rest) {other : Path} (knows : walk.Knows other) :
    ({ walk with waiting := rest : Walk }.visit resolver tree sourceRoot path).Knows other := by
  unfold Knows
  rw [mem_visit_waiting, visit_files, SortedMap.contains_insert]
  rcases knows with waits | old
  · rw [waiting] at waits
    rcases List.mem_cons.mp waits with rfl | later
    · exact .inr (.inl Std.ReflCmp.compare_self)
    · exact .inl (.inl later)
  · exact .inr (.inr old)

theorem skip_sound {walk : Walk} (sound : walk.Sound resolver tree sourceRoot entries)
    {path : Path} {rest : List Path} (waiting : walk.waiting = path :: rest)
    (known : walk.files.contains path = true) :
    { walk with waiting := rest : Walk }.Sound resolver tree sourceRoot entries where
  waits other member := sound.waits other (by rw [waiting]; exact List.mem_cons_of_mem path member)
  visits := sound.visits
  read := sound.read
  seeds other member := knows_skip waiting known (sound.seeds other member)
  follow other member target follows :=
    knows_skip waiting known (sound.follow other member target follows)

theorem visit_sound {walk : Walk} (sound : walk.Sound resolver tree sourceRoot entries)
    {path : Path} {rest : List Path} (waiting : walk.waiting = path :: rest)
    (fresh : walk.files.contains path = false) :
    ({ walk with waiting := rest : Walk }.visit resolver tree sourceRoot path).Sound
      resolver tree sourceRoot entries := by
  have reached : Reached resolver tree sourceRoot entries path :=
    sound.waits path (by rw [waiting]; exact List.mem_cons_self)
  constructor
  · intro target member
    rcases (mem_visit_waiting resolver tree sourceRoot _ path target).mp member with
      old | ⟨-, follows⟩
    · exact sound.waits target (by rw [waiting]; exact List.mem_cons_of_mem path old)
    · exact reached_follow resolver tree sourceRoot entries reached follows
  · intro other member
    rw [visit_files, SortedMap.mem_keys_insert_of_fresh _ _ _ fresh] at member
    rcases member with rfl | old
    · exact reached
    · exact sound.visits other old
  · intro entry member
    rw [visit_files, SortedMap.mem_insert_of_fresh _ _ _ fresh] at member
    rcases member with rfl | old
    · rfl
    · exact sound.read entry old
  · intro other member
    exact knows_visit waiting (sound.seeds other member)
  · intro other member target follows
    rw [visit_files, SortedMap.mem_keys_insert_of_fresh _ _ _ fresh] at member
    rcases member with rfl | old
    · -- A target that is not visited yet was just put in front, be it the file itself.
      by_cases known : walk.files.contains target = true
      · exact knows_visit waiting (.inr known)
      · exact .inl ((mem_visit_waiting resolver tree sourceRoot _ other target).mpr
          (.inr ⟨by simpa using known, follows⟩))
    · exact knows_visit waiting (sound.follow other old target follows)

theorem turn_sound {walk : Walk} (sound : walk.Sound resolver tree sourceRoot entries) :
    (walk.turn resolver tree sourceRoot).Sound resolver tree sourceRoot entries := by
  unfold turn
  split
  · exact sound
  · rename_i path rest waiting
    by_cases known : walk.files.contains path = true
    · rw [if_pos known]
      exact skip_sound sound waiting known
    · rw [if_neg known]
      exact visit_sound sound waiting (by simpa using known)

theorem turns_sound {walk : Walk} (sound : walk.Sound resolver tree sourceRoot entries)
    (turns : Nat) :
    ((turn resolver tree sourceRoot)^[turns] walk).Sound resolver tree sourceRoot entries := by
  induction turns generalizing walk with
  | zero => exact sound
  | succ turns ih => exact ih (turn_sound sound)

/-- Only so many files can have been visited, and one fewer while a new one waits. -/
theorem size_lt_of_waits {walk : Walk} (sound : walk.Sound resolver tree sourceRoot entries)
    {path : Path} (waits : path ∈ walk.waiting) (fresh : walk.files.contains path = false) :
    walk.files.size < pathBound := by
  have apart : path ∉ walk.files.keys := by
    intro member
    obtain ⟨entry, held, rfl⟩ := List.mem_map.mp member
    rw [walk.files.contains_of_mem entry held] at fresh
    contradiction
  have bounded := tree.length_le_of_files (path :: walk.files.keys)
    (List.nodup_cons.mpr ⟨apart, walk.files.keys_nodup⟩) fun other member => by
      rcases List.mem_cons.mp member with rfl | old
      · exact (sound.waits other waits).1
      · exact (sound.visits other old).1
  rw [List.length_cons, SortedMap.keys, List.length_map] at bounded
  unfold pathBound
  exact Nat.lt_of_succ_le bounded

variable (resolver tree sourceRoot) in
theorem turns_settle (walk : Walk) :
    ∃ turns, (turn resolver tree sourceRoot)^[turns] walk =
      { walk with waiting := walk.waiting.dropWhile walk.files.contains } := by
  obtain ⟨waiting, files, graph⟩ := walk
  induction waiting with
  | nil => exact ⟨0, rfl⟩
  | cons path rest ih =>
      by_cases known : files.contains path = true
      · obtain ⟨turns, settled⟩ := ih
        refine ⟨turns + 1, ?_⟩
        rw [Function.iterate_succ_apply, turn]
        simpa [known] using settled
      · exact ⟨0, by simp [known]⟩

/-- A run that may visit enough files takes as many turns as it takes until nothing waits. -/
theorem run_turns (count : Nat) (walk : Walk)
    (sound : walk.Sound resolver tree sourceRoot entries)
    (enough : pathBound ≤ count + walk.files.size) :
    ∃ turns, ((turn resolver tree sourceRoot)^[turns] walk).waiting = [] ∧
      (walk.run resolver tree sourceRoot count).files =
        ((turn resolver tree sourceRoot)^[turns] walk).files ∧
      (walk.run resolver tree sourceRoot count).graph =
        ((turn resolver tree sourceRoot)^[turns] walk).graph := by
  obtain ⟨settling, settled⟩ := turns_settle resolver tree sourceRoot walk
  -- A visit uses up one of the count and adds one visited file, so `enough` carries over.
  induction count generalizing walk settling with
  | zero =>
      have done : walk.waiting.dropWhile walk.files.contains = [] := by
        rw [List.dropWhile_eq_nil_iff]
        intro path waits
        by_contra fresh
        have room := size_lt_of_waits sound waits (by simpa using fresh)
        omega
      rw [done] at settled
      exact ⟨settling, by rw [settled], by rw [settled]; rfl, by rw [settled]; rfl⟩
  | succ count ih =>
      unfold run
      cases next : walk.waiting.dropWhile walk.files.contains with
      | nil =>
          rw [next] at settled
          exact ⟨settling, by rw [settled], by rw [settled], by rw [settled]⟩
      | cons path rest =>
          rw [next] at settled
          have fresh : walk.files.contains path = false := by
            have stopped := List.head?_dropWhile_not walk.files.contains walk.waiting
            rw [next] at stopped
            simpa using stopped
          have before := turns_sound sound settling
          rw [settled] at before
          have after := visit_sound before rfl fresh
          obtain ⟨turns', settled'⟩ := turns_settle resolver tree sourceRoot
            ({ walk with waiting := rest : Walk }.visit resolver tree sourceRoot path)
          obtain ⟨turns, ended⟩ := ih _ after (by
            rw [visit_files, SortedMap.size_insert_of_fresh _ _ _ fresh]
            show pathBound ≤ count + (walk.files.size + 1)
            omega) turns' settled'
          refine ⟨turns + 1 + settling, ?_⟩
          have visits : turn resolver tree sourceRoot { walk with waiting := path :: rest } =
              { walk with waiting := rest : Walk }.visit resolver tree sourceRoot path := by
            simp [turn, fresh]
          rw [Function.iterate_add_apply, settled, Function.iterate_succ_apply, visits]
          exact ended

variable (resolver tree sourceRoot entries) in
theorem start_sound (files : ∀ path ∈ entries, tree.isFile path = true) :
    ({ waiting := entries } : Walk).Sound resolver tree sourceRoot entries where
  waits path member := ⟨files path member, fun _ closed => closed.entry path member⟩
  visits _ member := nomatch member
  read _ member := nomatch member
  seeds _ member := .inl member
  follow _ member := nomatch member

theorem closed_of_done {walk : Walk} (sound : walk.Sound resolver tree sourceRoot entries)
    (done : walk.waiting = []) :
    Closed resolver tree sourceRoot entries fun path => walk.files.contains path = true := by
  -- Whatever the invariant promises to wait or to be visited is visited by now.
  have settled : ∀ path, walk.Knows path → walk.files.contains path = true := by
    rintro path (waits | old)
    · rw [done] at waits
      contradiction
    · exact old
  constructor
  · intro path member
    exact settled path (sound.seeds path member)
  · intro importer target known follows
    obtain ⟨entry, held, same⟩ := (walk.files.contains_iff importer).mp known
    have member : entry.1 ∈ walk.files.keys := List.mem_map_of_mem held
    -- The importer may be written otherwise than the key under which its file was visited.
    have again := follows_congr resolver tree sourceRoot ((Path.compare_eq_iff _ _).mp same)
      (sound.visits entry.1 member).1 follows
    exact settled target (sound.follow entry.1 member target again)
  · intro path other same known
    obtain ⟨entry, held, equal⟩ := (walk.files.contains_iff path).mp known
    refine (walk.files.contains_iff other).mpr ⟨entry, held, ?_⟩
    rw [Path.compare_eq_iff] at equal ⊢
    exact ((Path.same_iff path other).mp same).symm.trans equal

theorem least_of_sound {walk : Walk} (sound : walk.Sound resolver tree sourceRoot entries)
    (members : Path → Prop) (closed : Closed resolver tree sourceRoot entries members)
    (path : Path) (known : walk.files.contains path = true) : members path := by
  obtain ⟨entry, held, same⟩ := (walk.files.contains_iff path).mp known
  refine closed.same entry.1 path ?_ ((sound.visits entry.1 (List.mem_map_of_mem held)).2 _ closed)
  exact (Path.same_iff _ _).mpr ((Path.compare_eq_iff _ _).mp same).symm

end Walk

end Invariant

theorem entryPaths_ok (entries : List String)
    (files : ∀ entry ∈ entries, tree.isFile (entryPath resolver entry) = true) :
    entryPaths resolver tree entries = .ok (entries.map (entryPath resolver)) := by
  unfold entryPaths
  induction entries with
  | nil => rfl
  | cons entry rest ih =>
      rw [List.mapM_cons, ih fun other member => files other (List.mem_cons_of_mem entry member)]
      dsimp only
      rw [if_pos (files entry List.mem_cons_self)]
      rfl

theorem isFile_of_entryPaths (entries : List String) (paths : List Path)
    (found : entryPaths resolver tree entries = .ok paths) :
    ∀ entry ∈ entries, tree.isFile (entryPath resolver entry) = true := by
  induction entries generalizing paths with
  | nil => exact fun entry member => nomatch member
  | cons first rest ih =>
      rw [entryPaths, List.mapM_cons, ← entryPaths] at found
      by_cases file : tree.isFile (entryPath resolver first) = true
      · rw [if_pos file] at found
        cases others : entryPaths resolver tree rest with
        | error reason => simp [others, bind, Except.bind] at found
        | ok later =>
            intro entry member
            rcases List.mem_cons.mp member with rfl | inRest
            · exact file
            · exact ih later others entry inRest
      · simp [if_neg file, bind, Except.bind] at found

end Reachability

namespace ReachableSet

open Reachability

theorem build_ok (resolver : Resolver) (tree : FileTree) (sourceRoot : String)
    (entries : List String) (occupied : entries ≠ [])
    (files : ∀ entry ∈ entries, tree.isFile (entryPath resolver entry) = true) (walk : Walk)
    (ran : Walk.run resolver tree (resolver.root.configured sourceRoot) pathBound
      { waiting := entries.map (entryPath resolver) } = walk) :
    build resolver tree sourceRoot entries =
      .ok { root := resolver.root, entries := entries.map (entryPath resolver),
            files := walk.files, graph := walk.graph } := by
  unfold build
  rw [entryPaths_ok resolver tree entries files, if_neg (by simpa using occupied), ← ran]
  rfl

/-- A set that was built is what a walk has reached that took turns until nothing waited. -/
theorem build_walked (resolver : Resolver) (tree : FileTree) (sourceRoot : String)
    (entries : List String) (reached : ReachableSet)
    (built : build resolver tree sourceRoot entries = .ok reached) :
    (entries ≠ [] ∧ ∀ entry ∈ entries, tree.isFile (entryPath resolver entry) = true) ∧
    ∃ turns, let paths := entries.map (entryPath resolver)
      let last := (Walk.turn resolver tree (resolver.root.configured sourceRoot))^[turns]
        { waiting := paths }
      last.waiting = [] ∧
        reached = { root := resolver.root, entries := paths, files := last.files,
                    graph := last.graph } := by
  have occupied : entries ≠ [] := by
    rintro rfl
    contradiction
  have files : ∀ entry ∈ entries, tree.isFile (entryPath resolver entry) = true := by
    cases found : entryPaths resolver tree entries with
    | error reason =>
        unfold build at built
        rw [found, if_neg (by simpa using occupied)] at built
        contradiction
    | ok paths => exact isFile_of_entryPaths resolver tree entries paths found
  have start := Walk.start_sound resolver tree (resolver.root.configured sourceRoot) _
    (fun path member => by
      obtain ⟨entry, listed, rfl⟩ := List.mem_map.mp member
      exact files entry listed)
  obtain ⟨walk, ran⟩ : ∃ walk, Walk.run resolver tree (resolver.root.configured sourceRoot)
      pathBound { waiting := entries.map (entryPath resolver) } = walk := ⟨_, rfl⟩
  have enough : ∀ bound,
      bound ≤ bound + ({ waiting := entries.map (entryPath resolver) } : Walk).files.size :=
    fun bound => Nat.le_add_right bound _
  obtain ⟨turns, done, sameFiles, sameGraph⟩ := Walk.run_turns pathBound _ start (enough pathBound)
  rw [ran] at sameFiles sameGraph
  rw [build_ok resolver tree sourceRoot entries occupied files walk ran] at built
  refine ⟨⟨occupied, files⟩, turns, done, ?_⟩
  rw [← Except.ok.inj built, sameFiles, sameGraph]

/-- When there are entries and all of them are files, the walk ends, with a turn for each file that
was ever found to wait, and what it has reached is the least set of paths that holds the entries and
that following does not leave. The imports of every file in the set have been read. -/
theorem build_least (resolver : Resolver) (tree : FileTree) (sourceRoot : String)
    (entries : List String) (occupied : entries ≠ [])
    (files : ∀ entry ∈ entries, tree.isFile (entryPath resolver entry) = true) :
    let below := resolver.root.configured sourceRoot
    let paths := entries.map (entryPath resolver)
    ∃ reached, build resolver tree sourceRoot entries = .ok reached ∧ reached.entries = paths ∧
      (∃ turns, let last := (Walk.turn resolver tree below)^[turns] { waiting := paths }
        last.waiting = [] ∧ reached.files = last.files ∧ reached.graph = last.graph) ∧
      Closed resolver tree below paths (fun path => reached.contains path = true) ∧
      (∀ members, Closed resolver tree below paths members →
        ∀ path, reached.contains path = true → members path) ∧
      ∀ path file, reached.files.find? path = some file →
        file.path.same path = true ∧
        file.imports = some (file.declaredImports resolver tree) := by
  intro below paths
  have leads : ∀ path ∈ paths, tree.isFile path = true := by
    intro path member
    obtain ⟨entry, listed, rfl⟩ := List.mem_map.mp member
    exact files entry listed
  have start := Walk.start_sound resolver tree below paths leads
  have enough : ∀ bound, bound ≤ bound + ({ waiting := paths } : Walk).files.size :=
    fun bound => Nat.le_add_right bound _
  obtain ⟨turns, done, sameFiles, sameGraph⟩ :=
    Walk.run_turns pathBound { waiting := paths } start (enough pathBound)
  have last := Walk.turns_sound start turns
  obtain ⟨walk, ran⟩ : ∃ walk,
      Walk.run resolver tree below pathBound { waiting := paths } = walk := ⟨_, rfl⟩
  rw [ran] at sameFiles sameGraph
  have built := build_ok resolver tree sourceRoot entries occupied files walk ran
  refine ⟨_, built, rfl, ⟨turns, done, sameFiles, sameGraph⟩, ?_, ?_, ?_⟩
  · have closed := Walk.closed_of_done last done
    rw [← sameFiles] at closed
    exact closed
  · intro members closed path known
    refine Walk.least_of_sound last members closed path ?_
    rw [← sameFiles]
    exact known
  · intro path file found
    obtain ⟨key, held, same⟩ := SortedMap.mem_of_find _ path file found
    have read := last.read (key, file) (by rw [← sameFiles]; exact held)
    dsimp only at read
    rw [read]
    exact ⟨(Path.same_iff _ _).mpr ((Path.compare_eq_iff _ _).mp same).symm,
      Walk.visited_imports resolver tree key⟩

def cyclicTree : FileTree :=
  ((FileTree.add {} [['s', 'r', 'c'], ['a', '.', 't', 's']]
    (.file (Text.encode "import './b'".toList))).add [['s', 'r', 'c'], ['b', '.', 't', 's']]
    (.file (Text.encode "import './a'".toList)))

def plainResolver : Resolver :=
  { root := ⟨"/"⟩, aliases := [], extensions := [".ts"] }

theorem build_least_cyclic :
    (["src/a.ts", "src/a.ts"] ≠ [] ∧ ∀ entry ∈ ["src/a.ts", "src/a.ts"],
      cyclicTree.isFile (entryPath plainResolver entry) = true) ∧
    ∃ reached, build plainResolver cyclicTree "src" ["src/a.ts", "src/a.ts"] = .ok reached ∧
      reached.contains ⟨"/src/a.ts"⟩ = true ∧ reached.contains ⟨"/src/b.ts"⟩ = true := by
  have known : ["src/a.ts", "src/a.ts"] ≠ [] ∧ ∀ entry ∈ ["src/a.ts", "src/a.ts"],
      cyclicTree.isFile (entryPath plainResolver entry) = true := by decide
  obtain ⟨reached, built, -, -, closed, -, -⟩ :=
    build_least plainResolver cyclicTree "src" _ known.1 known.2
  have first := closed.entry (entryPath plainResolver "src/a.ts") List.mem_cons_self
  have path : entryPath plainResolver "src/a.ts" = ⟨"/src/a.ts"⟩ := by decide
  rw [path] at first
  have follows : Follows plainResolver cyclicTree (plainResolver.root.configured "src")
      ⟨"/src/a.ts"⟩ ⟨"/src/b.ts"⟩ :=
    (Walk.mem_knownImports _ _ _ _ _).mp (by decide +kernel)
  exact ⟨known, reached, built, first, closed.follow _ _ first follows⟩

example : (build plainResolver cyclicTree "src" ["src/a.ts", "src/a.ts"]).toOption.map
    relativePaths = some ["src/a.ts", "src/b.ts"] := by decide +kernel

end ReachableSet

end UiContract
