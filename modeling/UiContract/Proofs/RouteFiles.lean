import UiContract.Checks.Shell
import UiContract.Proofs.NormalPaths
import UiContract.Proofs.PlainTrees

/-!
The files right in a directory. Each of them has one path, which leads to it wherever it is not too long,
and each is shown by another text; so what is said about the file that is shown in some way is said about
that file alone.
-/
namespace UiContract

namespace FileTree

variable (tree : FileTree) {place final : List Name} {name : Name} {entry : Entry}

/-- A way that goes on from a directory leads to what the directory holds, unless that is a link. -/
theorem walk_concat (onLink : List Name → List Char → List Step → Except FileError (List Name))
    (held : tree.entry? (place ++ [name]) = some entry) (solid : entry.isLink = false)
    (links : ∀ start target rest, onLink start target rest = .ok place →
      onLink start target (rest ++ [.down name]) = .ok final → final = place ++ [name])
    (steps : List Step) (start : List Name) (found : walk onLink tree start steps = .ok place)
    (longer : walk onLink tree start (steps ++ [.down name]) = .ok final) :
    final = place ++ [name] := by
  induction steps generalizing start with
  | nil =>
      obtain rfl : start = place := Except.ok.inj found
      unfold walk at longer
      dsimp only [List.nil_append] at longer
      split at longer
      · contradiction
      · split at longer
        · contradiction
        · rw [held] at longer
          cases entry with
          | link target => contradiction
          | _ => exact (Except.ok.inj longer).symm
  | cons step rest ih =>
      rw [List.cons_append] at longer
      unfold walk at found longer
      split at found
      · contradiction
      · rename_i inside
        rw [if_neg inside] at longer
        cases step with
        | stay => exact ih start found longer
        | up => exact ih start.dropLast found longer
        | down next =>
            dsimp only at found longer
            split at found
            · contradiction
            · rename_i short
              rw [if_neg short] at longer
              cases here : tree.entry? (start ++ [next]) with
              | none =>
                  rw [here] at found
                  contradiction
              | some other =>
                  rw [here] at found longer
                  cases other with
                  -- Behind a link the way begins anew with one link less, which is not this induction.
                  | link target => exact links start _ rest found longer
                  | _ => exact ih (start ++ [next]) found longer

theorem follow_concat (held : tree.entry? (place ++ [name]) = some entry) (solid : entry.isLink = false)
    (links : Nat) (steps : List Step) (start : List Name)
    (found : tree.follow links start steps = .ok place)
    (longer : tree.follow links start (steps ++ [.down name]) = .ok final) :
    final = place ++ [name] := by
  induction links generalizing steps start with
  | zero =>
      unfold follow at found longer
      refine tree.walk_concat _ held solid ?_ steps start found longer
      intro start target rest failed
      contradiction
  | succ links ih =>
      unfold follow at found longer
      refine tree.walk_concat _ held solid ?_ steps start found longer
      intro start target rest reached reached'
      rw [← List.append_assoc] at reached'
      exact ih _ _ reached reached'

/-- What the path of a directory and a name lead to, if anything, is what the directory holds under that
name. -/
theorem locate_child {base path : Path} (lies : path.components = base.components ++ [.normal name])
    (held : tree.entry? (place ++ [name]) = some entry) (solid : entry.isLink = false)
    (found : tree.locate base = .ok place) (found' : tree.locate path = .ok final) :
    final = place ++ [name] := by
  obtain ⟨-, -, start, begins, follows⟩ := tree.locate_ok base place found
  obtain ⟨-, -, start', begins', follows'⟩ := tree.locate_ok path final found'
  have steps : path.solid = base.solid ++ [.normal name] := by
    rw [Path.solid_eq, Path.solid_eq, lies, List.filter_append]
    rfl
  have above : base.isAbsolute = path.isAbsolute := by
    rw [Bool.eq_iff_iff, ← Path.root_mem_solid, ← Path.root_mem_solid, steps]
    simp
  rw [above] at begins
  obtain rfl : start = start' := Option.some.inj (begins.symm.trans begins')
  -- Without the steps that stay, the longer way has one step more.
  have direct := tree.follow_drops linkLimit (drops_filter _) start place follows
  have direct' := tree.follow_drops linkLimit (drops_filter _) start final follows'
  rw [filter_stepsOf] at direct direct'
  rw [show Path.solidOf path.text.toList = _ from steps, List.filterMap_append] at direct'
  exact tree.follow_concat held solid linkLimit _ start direct direct'

/-- No name of an entry has a slash in it or stands for a directory by itself. -/
def Spelled : Prop :=
  ∀ entry ∈ tree.entries.entries, ∀ name ∈ entry.1, Path.Plain (.normal name)

def child? (place : List Name) (entry : List Name × Entry) : Option (Name × Entry) :=
  match entry.1.getLast? with
  | some name => if entry.1.dropLast == place then some (name, entry.2) else none
  | none => none

theorem child_eq_some (place : List Name) (entry : List Name × Entry) (child : Name × Entry) :
    child? place entry = some child ↔ entry = (place ++ [child.1], child.2) := by
  obtain ⟨key, held⟩ := entry
  unfold child?
  dsimp only
  constructor
  · intro kept
    split at kept
    · rename_i last final
      rw [Option.ite_none_right_eq_some] at kept
      obtain ⟨above, same⟩ := kept
      obtain rfl := Option.some.inj same
      rw [← beq_iff_eq.mp above, List.dropLast_append_getLast? _ final]
    · contradiction
  · intro same
    obtain ⟨rfl, rfl⟩ := Prod.mk.inj same
    simp

theorem mem_children (place : List Name) (name : Name) (entry : Entry) :
    (name, entry) ∈ tree.children place ↔ tree.entry? (place ++ [name]) = some entry := by
  have proper : ¬ (place ++ [name] == []) = true := by simp
  show (name, entry) ∈ tree.entries.entries.filterMap (child? place) ↔ _
  unfold entry?
  rw [if_neg proper, SortedMap.find_eq_some_iff, List.mem_filterMap]
  simp only [child_eq_some, exists_eq_right]

theorem children_apart (place : List Name) :
    (tree.children place).Pairwise fun first second => first.1 ≠ second.1 := by
  show (tree.entries.entries.filterMap (child? place)).Pairwise _
  rw [List.pairwise_filterMap]
  refine tree.entries.ascending.imp fun {earlier later} before child kept child' kept' same => ?_
  rw [(child_eq_some _ _ _).mp kept, (child_eq_some _ _ _).mp kept', same] at before
  dsimp only at before
  have self : compare (place ++ [child'.1]) (place ++ [child'.1]) = .eq := Std.ReflCmp.compare_self
  rw [self] at before
  contradiction

end FileTree

namespace Path

section Siblings

variable (root : Path) (front : List Component) (name : List Char)

/-- Below a root that is not the whole way, a further step is shown behind what is shown without it. -/
theorem behind_concat (apart : root.components ≠ front ++ [.normal name]) :
    behind root (front ++ [.normal name]) = behind root front ++ [.normal name] := by
  unfold behind
  simp only [List.isPrefixOf_iff_prefix, List.prefix_concat_iff]
  by_cases below : root.components <+: front
  · rw [if_pos (.inr below), if_pos below, List.drop_append_of_le_length below.length_le]
  · rw [if_neg (not_or.mpr ⟨apart, below⟩), if_neg below]

/-- Files right in one directory are shown by one beginning and their names, but for the root itself. -/
theorem relativeTo_children (root : Path) (front : List Component) : ∃ start, ∀ (path : Path) name,
    path.components = front ++ [.normal name] → root.components ≠ path.components →
      path.relativeTo root = String.ofList (start ++ name) := by
  obtain ⟨start, whole⟩ :=
    Text.joinPieces_concat '/' ((behind root front).filterMap Component.name?)
  refine ⟨start, fun path name lies apart => ?_⟩
  have last : path.components.getLast? = some (.normal name) := by simp [lies]
  rw [lies] at apart
  rw [path.relativeTo_named last, lies, behind_concat root front name apart, List.filterMap_append]
  exact congrArg String.ofList (whole name)

theorem relativeTo_siblings {root first second : Path} {front : List Component} {name other : List Char}
    (lies : first.components = front ++ [.normal name])
    (lies' : second.components = front ++ [.normal other])
    (same : first.relativeTo root = second.relativeTo root) : name = other := by
  obtain ⟨start, shown⟩ := relativeTo_children root front
  -- The root is shown as nothing, and every other file ends with its name.
  have written : ∀ (path : Path) (last : List Char), path.components = front ++ [.normal last] →
      root.components ≠ path.components → path.relativeTo root ≠ "" := by
    intro path last here apart empty
    rw [shown path last here apart, ← String.toList_eq_nil_iff, String.toList_ofList] at empty
    refine path.name_ne_nil last ?_ (List.append_eq_nil_iff.mp empty).2
    rw [here]
    exact List.mem_append_right _ List.mem_cons_self
  by_cases top : root.components = first.components
  · by_cases top' : root.components = second.components
    · have steps := lies.symm.trans (top.symm.trans (top'.trans lies'))
      simpa using steps
    · rw [relativeTo_same _ _ top.symm] at same
      exact absurd same.symm (written second other lies' top')
  · by_cases top' : root.components = second.components
    · rw [relativeTo_same _ _ top'.symm] at same
      exact absurd same (written first name lies top)
    · rw [shown first name lies top, shown second other lies' top', ← String.toList_inj,
        String.toList_ofList, String.toList_ofList] at same
      exact List.append_cancel_left same

end Siblings

end Path

namespace Checks

open FileTree

theorem script_last {path : Path} (script : (Language.ofPath path).isScript = true) :
    ∃ name, path.components.getLast? = some (.normal name) := by
  unfold Language.ofPath at script
  cases extended : path.extension? with
  | none =>
      rw [extended] at script
      contradiction
  | some extension =>
      unfold Path.extension? at extended
      obtain ⟨name, named, -⟩ := Option.bind_eq_some_iff.mp extended
      obtain ⟨step, last, read⟩ := Option.bind_eq_some_iff.mp named
      cases step <;> cases read
      exact ⟨name, last⟩

theorem isRoute_iff (routes path : Path) : isRoute routes path = true ↔
    (∃ name, path.components = routes.components ++ [.normal name]) ∧
      (Language.ofPath path).isScript = true := by
  unfold isRoute
  rw [Bool.and_eq_true]
  refine and_congr_left fun script => ?_
  obtain ⟨name, last⟩ := script_last script
  have parted := List.dropLast_append_getLast? _ last
  constructor
  · intro inside
    cases above : path.parent? with
    | none =>
        rw [above] at inside
        contradiction
    | some directory =>
        rw [above] at inside
        have same : directory.components = routes.components := (Path.same_iff _ _).mp inside
        rw [← same, path.parent_components directory above]
        exact ⟨name, parted.symm⟩
  · rintro ⟨other, lies⟩
    cases above : path.parent? with
    | none =>
        unfold Path.parent? at above
        rw [last] at above
        contradiction
    | some directory =>
        refine (Path.same_iff _ _).mpr ?_
        rw [path.parent_components directory above, lies, List.dropLast_concat]

variable {tree : FileTree} (spelled : tree.Spelled) {routes : Path} (normal : routes.normalize = routes)

include spelled normal

theorem child_path {place : List Name} {name : Name} {entry : Entry}
    (held : tree.entry? (place ++ [name]) = some entry) :
    (routes.join (String.ofList name)).components = routes.components ++ [.normal name] ∧
      (routes.join (String.ofList name)).normalize = routes.join (String.ofList name) := by
  have plain : Path.Plain (.normal name) := by
    refine spelled _ (mem_of_entry held (by simp)) name ?_
    exact List.mem_append_right _ List.mem_cons_self
  refine ⟨?_, Path.normalize_join_name normal plain⟩
  obtain ⟨steps, settled, rfl⟩ := (Path.normal_iff routes).mp normal
  rw [Path.join_ofComponents settled.tidy plain, Path.ofComponents_components settled.tidy,
    Path.ofComponents_components (settled.concat plain).tidy]

omit spelled normal in
def routeFile? (routes : Path) (child : Name × Entry) : Option Path :=
  let path := routes.join (String.ofList child.1)
  match child.2 with
  | .file _ => if isRoute routes path then some path.normalize else none
  | _ => none

theorem routeFile_eq_some {place : List Name} {name : Name} {entry : Entry}
    (held : tree.entry? (place ++ [name]) = some entry) (path : Path) :
    routeFile? routes (name, entry) = some path ↔ (∃ bytes, entry = .file bytes) ∧
      path = routes.join (String.ofList name) ∧ (Language.ofPath path).isScript = true := by
  obtain ⟨lies, same⟩ := child_path spelled normal held
  have route := isRoute_iff routes (routes.join (String.ofList name))
  rw [and_iff_right ⟨name, lies⟩] at route
  unfold routeFile?
  dsimp only
  rw [same]
  cases entry with
  | file bytes =>
      dsimp only
      rw [Option.ite_none_right_eq_some, route, Option.some.injEq]
      constructor
      · rintro ⟨script, rfl⟩
        exact ⟨⟨bytes, rfl⟩, rfl, script⟩
      · rintro ⟨-, rfl, script⟩
        exact ⟨script, rfl⟩
  | _ => simp

/-- The routes on disk are the script files right in their directory that are files, links aside. -/
theorem mem_routeFiles (path : Path) : path ∈ routeFiles tree routes ↔
    ∃ place name bytes, tree.locate routes = .ok place ∧
      tree.entry? (place ++ [name]) = some (.file bytes) ∧ path = routes.join (String.ofList name) ∧
      (Language.ofPath path).isScript = true := by
  unfold routeFiles
  cases located : tree.locate routes with
  | error reason => simp
  | ok place =>
      show path ∈ (tree.children place).filterMap (routeFile? routes) ↔ _
      rw [List.mem_filterMap]
      constructor
      · rintro ⟨⟨name, entry⟩, member, kept⟩
        have held := (tree.mem_children place name entry).mp member
        obtain ⟨⟨bytes, rfl⟩, same, script⟩ := (routeFile_eq_some spelled normal held path).mp kept
        exact ⟨place, name, bytes, rfl, held, same, script⟩
      · rintro ⟨_, name, bytes, found, held, same, script⟩
        obtain rfl := Except.ok.inj found
        exact ⟨(name, .file bytes), (tree.mem_children place name _).mpr held,
          (routeFile_eq_some spelled normal held path).mpr ⟨⟨bytes, rfl⟩, same, script⟩⟩

theorem routeFiles_apart : (routeFiles tree routes).Pairwise fun first second =>
    first.components ≠ second.components := by
  unfold routeFiles
  cases located : tree.locate routes with
  | error reason => exact .nil
  | ok place =>
      show ((tree.children place).filterMap (routeFile? routes)).Pairwise _
      rw [List.pairwise_filterMap]
      refine (tree.children_apart place).imp_of_mem ?_
      rintro ⟨name, entry⟩ ⟨other, entry'⟩ member member' apart path kept path' kept' same
      have held := (tree.mem_children place name entry).mp member
      have held' := (tree.mem_children place other entry').mp member'
      obtain ⟨-, rfl, -⟩ := (routeFile_eq_some spelled normal held path).mp kept
      obtain ⟨-, rfl, -⟩ := (routeFile_eq_some spelled normal held' path').mp kept'
      rw [(child_path spelled normal held).1, (child_path spelled normal held').1] at same
      exact apart (by simpa using same)

end Checks

end UiContract
