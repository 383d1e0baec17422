import UiContract.Proofs.StatementSpans
import UiContract.Proofs.TypeImports

/-!
The order of declarations in `collect_imports`. A node is told by its place: the numbers of the children
that lead to it from the root. Places in the order of the text ascend, so a list of ascending places has
every node once. The declarations of a grammatical tree are those of the nodes that name a module and do not
lie in a whole declaration, each once and in the order of the text; their lines ascend already, so
putting them in the order of their lines changes nothing.
-/
namespace UiContract

open Script

namespace Script.Tree

def nodeAt? : List Nat → Tree → Option Tree
  | [], tree => some tree
  | index :: rest, tree => tree.children[index]?.bind (nodeAt? rest)

end Script.Tree

namespace ImportDeclaration

/-- Whether a node names another module: an import, an export from another module, or a call of
`import` whose first argument is the literal of a specifier. -/
def NamesModule (node : Tree) : Prop :=
  node.kind = .importStatement ∨
    (node.kind = .exportStatement ∧ (node.part? .source).isSome = true) ∨
    ∃ specifier, CallsImport node specifier

/-- Whether no node above a place is a whole declaration. -/
def Outside (tree : Tree) (place : List Nat) : Prop :=
  ∀ front, front <+: place → front ≠ place → ∀ node, tree.nodeAt? front = some node →
    isWhole node = false

def DeclaredAt (tree : Tree) (place : List Nat) : Prop :=
  (∃ node, tree.nodeAt? place = some node ∧ NamesModule node) ∧ Outside tree place

mutual

def placed : Tree → List (List Nat × Tree)
  | .node label children =>
      let tree := Script.Tree.node label children
      ([], tree) :: if isWhole tree then [] else placedAmong 0 children

def placedAmong (index : Nat) : List Tree → List (List Nat × Tree)
  | [] => []
  | tree :: rest =>
      (placed tree).map (fun entry => (index :: entry.1, entry.2)) ++ placedAmong (index + 1) rest

end

section Places

theorem placed_eq (tree : Tree) :
    placed tree = ([], tree) :: if isWhole tree then [] else placedAmong 0 tree.children := by
  obtain ⟨label, children⟩ := tree
  rw [placed]
  rfl

theorem mem_placedAmong (index : Nat) (trees : List Tree) (place : List Nat) (node : Tree) :
    (place, node) ∈ placedAmong index trees ↔ ∃ offset child rest, trees[offset]? = some child ∧
      (rest, node) ∈ placed child ∧ place = (index + offset) :: rest := by
  induction trees generalizing index with
  | nil => simp [placedAmong]
  | cons tree trees ih =>
      rw [placedAmong, List.mem_append, List.mem_map, ih]
      constructor
      · rintro (⟨⟨rest, other⟩, member, same⟩ | ⟨offset, child, rest, held, member, rfl⟩)
        · obtain ⟨rfl, rfl⟩ := Prod.mk.inj same
          exact ⟨0, tree, rest, rfl, member, rfl⟩
        · exact ⟨offset + 1, child, rest, held, member, by congr 1; omega⟩
      · rintro ⟨offset, child, rest, held, member, rfl⟩
        cases offset with
        | zero =>
            cases held
            exact .inl ⟨(rest, node), member, rfl⟩
        | succ offset => exact .inr ⟨offset, child, rest, held, member, by congr 1; omega⟩

theorem outside_nil (tree : Tree) : Outside tree [] :=
  fun _ before other => absurd (List.prefix_nil.mp before) other

theorem outside_cons (tree : Tree) (index : Nat) (rest : List Nat) (child : Tree)
    (held : tree.children[index]? = some child) :
    Outside tree (index :: rest) ↔ isWhole tree = false ∧ Outside child rest := by
  constructor
  · intro outside
    refine ⟨outside [] List.nil_prefix nofun tree rfl, fun front before other node found => ?_⟩
    refine outside (index :: front) (List.cons_prefix_cons.mpr ⟨rfl, before⟩) ?_ node ?_
    · exact fun same => other (List.cons.inj same).2
    · rw [Tree.nodeAt?, held]
      exact found
  · rintro ⟨opened, outside⟩ front before other node found
    cases front with
    | nil => exact Option.some.inj found ▸ opened
    | cons first front =>
        obtain ⟨rfl, behind⟩ := List.cons_prefix_cons.mp before
        rw [Tree.nodeAt?, held] at found
        exact outside front behind (fun same => other (same ▸ rfl)) node found

theorem mem_placed (tree : Tree) (place : List Nat) (node : Tree) :
    (place, node) ∈ placed tree ↔ tree.nodeAt? place = some node ∧ Outside tree place := by
  induction tree using Tree.childrenInduction generalizing place with
  | step tree ih =>
      rw [placed_eq, List.mem_cons]
      cases place with
      | nil =>
          have none : ([], node) ∉ if isWhole tree then [] else placedAmong 0 tree.children := by
            split
            · exact List.not_mem_nil
            · simp [mem_placedAmong]
          constructor
          · rintro (same | member)
            · exact ⟨congrArg some (Prod.mk.inj same).2.symm, outside_nil tree⟩
            · exact absurd member none
          · rintro ⟨found, -⟩
            exact .inl (congrArg _ (Option.some.inj found).symm)
      | cons index rest =>
          rw [Tree.nodeAt?]
          cases held : tree.children[index]? with
          | none =>
              have none : (index :: rest, node) ∉
                  if isWhole tree then [] else placedAmong 0 tree.children := by
                split
                · exact List.not_mem_nil
                · rw [mem_placedAmong]
                  rintro ⟨offset, child, behind, found, -, same⟩
                  rw [Nat.zero_add] at same
                  rw [← (List.cons.inj same).1, held] at found
                  contradiction
              simp [none]
          | some child =>
              rw [outside_cons tree index rest child held, Option.bind_some,
                ← and_left_comm, ← ih child (List.mem_of_getElem? held)]
              cases opened : isWhole tree with
              | true => simp
              | false =>
                  simp only [Prod.mk.injEq, reduceCtorEq, false_and, Bool.false_eq_true, if_false,
                    false_or, true_and, mem_placedAmong, Nat.zero_add]
                  constructor
                  · rintro ⟨offset, other, behind, found, member, same⟩
                    obtain ⟨rfl, rfl⟩ := List.cons.inj same
                    rw [held] at found
                    exact Option.some.inj found ▸ member
                  · exact fun member => ⟨index, child, rest, held, member, rfl⟩

theorem placedAmong_ascends (index : Nat) (trees : List Tree)
    (each : ∀ tree ∈ trees, (placed tree).Pairwise fun first second => first.1 < second.1) :
    (placedAmong index trees).Pairwise fun first second => first.1 < second.1 := by
  induction trees generalizing index with
  | nil => exact List.Pairwise.nil
  | cons tree trees ih =>
      rw [placedAmong, List.pairwise_append, List.pairwise_map]
      refine ⟨?_, ih _ fun other member => each other (List.mem_cons_of_mem _ member), ?_⟩
      · refine (each tree List.mem_cons_self).imp fun {first second} less => ?_
        exact List.cons_lt_cons_iff.mpr (.inr ⟨rfl, less⟩)
      · intro first member second behind
        obtain ⟨entry, -, rfl⟩ := List.mem_map.mp member
        obtain ⟨offset, child, rest, -, -, same⟩ := (mem_placedAmong _ _ second.1 second.2).mp behind
        rw [same]
        exact List.cons_lt_cons_iff.mpr (.inl (by omega))

theorem placed_ascends (tree : Tree) :
    (placed tree).Pairwise fun first second => first.1 < second.1 := by
  induction tree using Tree.childrenInduction with
  | step tree ih =>
      rw [placed_eq, List.pairwise_cons]
      constructor
      · intro entry member
        split at member
        · contradiction
        · obtain ⟨offset, child, rest, -, -, same⟩ :=
            (mem_placedAmong _ _ entry.1 entry.2).mp member
          rw [same]
          exact List.nil_lt_cons _ _
      · split
        · exact List.Pairwise.nil
        · exact placedAmong_ascends 0 tree.children ih

theorem placed_visited (tree : Tree) : (placed tree).map Prod.snd = visited tree := by
  induction tree using Tree.childrenInduction with
  | step tree ih =>
      rw [placed_eq, visited_eq, List.map_cons]
      refine congrArg _ ?_
      split
      · rfl
      · have among : ∀ (trees : List Tree) (index : Nat),
            (∀ child ∈ trees, (placed child).map Prod.snd = visited child) →
            (placedAmong index trees).map Prod.snd = trees.flatMap visited := by
          intro trees
          induction trees with
          | nil => intros; rfl
          | cons child trees rest =>
              intro index each
              rw [placedAmong, List.map_append, List.map_map, List.flatMap_cons,
                rest _ fun other member => each other (List.mem_cons_of_mem _ member),
                ← each child List.mem_cons_self]
              rfl
        exact among tree.children 0 ih

end Places

section Own

variable {node : Tree} {declaration : ImportDeclaration}

theorem ofImport_line (made : ofImport? node = some declaration) :
    declaration.line = node.line := by
  unfold ofImport? at made
  dsimp only at made
  split at made
  · obtain ⟨specifier, -, made⟩ := Option.bind_eq_some_iff.mp made
    obtain ⟨localName, -, made⟩ := Option.bind_eq_some_iff.mp made
    rw [← Option.some.inj made]
  · obtain ⟨specifier, -, made⟩ := Option.bind_eq_some_iff.mp made
    split at made
    · rw [← Option.some.inj made]
    · rw [← Option.some.inj made]

theorem ofExport_line (made : ofExport? node = some declaration) :
    declaration.line = node.line := by
  unfold ofExport? at made
  obtain ⟨specifier, -, made⟩ := Option.bind_eq_some_iff.mp made
  rw [← Option.some.inj made]

theorem own_line (made : own? node = some declaration) : declaration.line = node.line := by
  unfold own? at made
  split at made
  · exact ofImport_line made
  · split at made
    · exact ofExport_line made
    · split at made
      · rename_i call
        obtain ⟨specifier, -, rfl⟩ := (ofCall_iff node declaration (beq_iff_eq.mp call)).mp made
        rfl
      · contradiction

theorem own_declares (made : own? node = some declaration) : node.kind.declares = true := by
  unfold own? at made
  split at made
  · rename_i statement
    rw [beq_iff_eq.mp statement]
    rfl
  · split at made
    · rename_i passed
      rw [Bool.and_eq_true, beq_iff_eq] at passed
      rw [passed.1]
      rfl
    · split at made
      · rename_i call
        rw [beq_iff_eq.mp call]
        rfl
      · contradiction

/-- An import statement that has what its kind promises, and whose parts do too, is a declaration. -/
theorem ofImport_isSome (statement : node.kind = .importStatement)
    (complete : ∀ part ∈ node.nodes, part.Complete) : (ofImport? node).isSome = true := by
  have self := complete node node.self_mem_nodes
  unfold Tree.Complete at self
  rw [statement] at self
  unfold ofImport? source?
  dsimp only
  cases clause : node.children.find? fun child => child.kind == .importRequireClause with
  | some clause' =>
      -- The clause has the module and what it is called here.
      have held := List.mem_of_find?_eq_some clause
      have kind := List.find?_some clause
      have inside := complete clause' (Tree.child_nodes held clause'.self_mem_nodes)
      unfold Tree.Complete at inside
      rw [beq_iff_eq.mp kind] at inside
      obtain ⟨source, name, member, identifier⟩ := inside
      obtain ⟨source, found⟩ := Option.isSome_iff_exists.mp source
      obtain ⟨first, named⟩ :
          ∃ first, clause'.children.find? (fun child => child.kind == .identifier) = some first :=
        Option.isSome_iff_exists.mp
          (List.find?_isSome.mpr ⟨name, member, beq_iff_eq.mpr identifier⟩)
      simp [found, firstName?, named]
  | none =>
      have source : (node.part? .source).isSome = true := by
        refine self.resolve_right ?_
        rintro ⟨clause', member, kind⟩
        exact absurd (beq_iff_eq.mpr kind) (List.find?_eq_none.mp clause clause' member)
      obtain ⟨source, found⟩ := Option.isSome_iff_exists.mp source
      simp only [found, Option.map_some, Option.bind_eq_bind, Option.bind_some]
      split <;> rfl

theorem own_isSome_iff (complete : ∀ part ∈ node.nodes, part.Complete) :
    (own? node).isSome = true ↔ NamesModule node := by
  unfold own? NamesModule
  split
  · rename_i statement
    rw [beq_iff_eq] at statement
    simp [statement, ofImport_isSome statement complete]
  · rename_i other
    rw [beq_iff_eq] at other
    split
    · rename_i passed
      rw [Bool.and_eq_true, beq_iff_eq] at passed
      obtain ⟨source, found⟩ := Option.isSome_iff_exists.mp passed.2
      simp [passed, ofExport?, source?, found]
    · rename_i kept
      rw [Bool.and_eq_true, beq_iff_eq] at kept
      split
      · rename_i call
        rw [beq_iff_eq] at call
        rw [Option.isSome_iff_exists]
        constructor
        · rintro ⟨declaration, made⟩
          obtain ⟨specifier, calls, -⟩ := (ofCall_iff node declaration call).mp made
          exact .inr (.inr ⟨specifier, calls⟩)
        · rintro (statement | passed | ⟨specifier, calls⟩)
          · exact absurd statement other
          · exact absurd passed kept
          · exact ⟨_, (ofCall_iff node _ call).mpr ⟨specifier, calls, rfl⟩⟩
      · rename_i silent
        rw [beq_iff_eq] at silent
        constructor
        · nofun
        · rintro (statement | passed | ⟨specifier, calls⟩)
          · exact absurd statement other
          · exact absurd passed kept
          · exact absurd calls.1 silent

end Own

section Order

variable (tree : Tree)

theorem visited_sublist : (visited tree).Sublist tree.nodes := by
  induction tree using Tree.childrenInduction with
  | step tree ih =>
      rw [visited_eq, Tree.nodes_eq]
      refine List.Sublist.cons_cons _ ?_
      split
      · exact List.nil_sublist _
      · exact List.Sublist.flatMap_right _ ih

variable {tree} in
theorem complete_of_visited {node : Tree} (complete : ∀ part ∈ tree.nodes, part.Complete)
    (seen : node ∈ visited tree) : ∀ part ∈ node.nodes, part.Complete := fun part inside =>
  complete part (Tree.nodes_trans tree node ((visited_sublist tree).subset seen) inside)

/-- The lines of declarations ascend where those of the nodes that can name a module do. -/
theorem collect_ascends (ascends : tree.marks.Pairwise (· ≤ ·)) :
    (collect tree).Pairwise fun first second => first.line ≤ second.line := by
  unfold Tree.marks at ascends
  rw [List.pairwise_map, List.pairwise_filter] at ascends
  rw [collect_eq, List.pairwise_filterMap]
  refine (ascends.sublist (visited_sublist tree)).imp ?_
  intro first second before declaration made other next
  rw [own_line made, own_line next]
  exact before (own_declares made) (own_declares next)

def declaredPlaces : List (List Nat) :=
  ((placed tree).filter fun entry => (own? entry.2).isSome).map Prod.fst

theorem declaredPlaces_ascends : (declaredPlaces tree).Pairwise (· < ·) := by
  unfold declaredPlaces
  rw [List.pairwise_map]
  exact (placed_ascends tree).filter _

theorem mem_declaredPlaces (complete : ∀ part ∈ tree.nodes, part.Complete) (place : List Nat) :
    place ∈ declaredPlaces tree ↔ DeclaredAt tree place := by
  have below : ∀ node, (place, node) ∈ placed tree → ∀ part ∈ node.nodes, part.Complete :=
    fun node member => complete_of_visited complete
      (placed_visited tree ▸ List.mem_map_of_mem member)
  unfold declaredPlaces DeclaredAt
  rw [List.mem_map]
  constructor
  · rintro ⟨⟨_, node⟩, member, rfl⟩
    obtain ⟨held, made⟩ := List.mem_filter.mp member
    obtain ⟨found, outside⟩ := (mem_placed tree _ node).mp held
    exact ⟨⟨node, found, (own_isSome_iff (below node held)).mp made⟩, outside⟩
  · rintro ⟨⟨node, found, names⟩, outside⟩
    have held := (mem_placed tree place node).mpr ⟨found, outside⟩
    exact ⟨(place, node),
      List.mem_filter.mpr ⟨held, (own_isSome_iff (below node held)).mpr names⟩, rfl⟩

theorem forall₂_declaredPlaces : List.Forall₂ (fun place declaration =>
    ∃ node, tree.nodeAt? place = some node ∧ own? node = some declaration)
    (declaredPlaces tree) (collect tree) := by
  unfold declaredPlaces
  rw [collect_eq, ← placed_visited]
  have stands := fun entry (member : entry ∈ placed tree) =>
    ((mem_placed tree entry.1 entry.2).mp member).1
  revert stands
  induction placed tree with
  | nil => exact fun _ => .nil
  | cons entry entries ih =>
      intro stands
      have rest := ih fun other member => stands other (List.mem_cons_of_mem _ member)
      rw [List.filter_cons, List.map_cons, List.filterMap_cons]
      cases made : own? entry.2 with
      | none => simpa [made] using rest
      | some declaration =>
          exact .cons ⟨entry.2, stands entry List.mem_cons_self, made⟩ rest

end Order

/-- The declarations of a grammatical tree are collected in the order of their lines. -/
theorem inOrder_eq_collect {tree : Tree} (grammatical : tree.Grammatical) :
    inOrder tree = collect tree :=
  List.mergeSort_of_pairwise
    ((collect_ascends tree grammatical.ascending).imp fun le => decide_eq_true le)

theorem grammatical_of_parse {language : Language} {text : List Char}
    (whole : (parse language text).broken = false) : (parse language text).Grammatical := by
  obtain ⟨high, spans⟩ := parse_spans language text whole
  exact spans.grammatical

/-- The declarations of a grammatical tree are those of the places where declarations stand, one for each
place and in the order of the places, and each has the line of its node. They are in the order of their
lines as they are collected. The tree of every text that can be read is grammatical. -/
theorem inOrder_exact :
    (∀ tree : Tree, tree.Grammatical →
      (∃ places : List (List Nat), places.Pairwise (· < ·) ∧
        (∀ place, place ∈ places ↔ DeclaredAt tree place) ∧
        List.Forall₂ (fun place declaration => ∃ node, tree.nodeAt? place = some node ∧
          own? node = some declaration ∧ declaration.line = node.line) places (inOrder tree)) ∧
      (inOrder tree).Pairwise (fun first second => first.line ≤ second.line) ∧
      inOrder tree = collect tree) ∧
    ∀ language text, (parse language text).broken = false → (parse language text).Grammatical := by
  refine ⟨fun tree grammatical => ?_, fun language text => grammatical_of_parse⟩
  have same := inOrder_eq_collect grammatical
  refine ⟨⟨declaredPlaces tree, declaredPlaces_ascends tree,
    mem_declaredPlaces tree grammatical.complete, ?_⟩, ?_, same⟩
  · rw [same]
    refine (forall₂_declaredPlaces tree).imp fun place declaration stands => ?_
    obtain ⟨node, found, made⟩ := stands
    exact ⟨node, found, made, own_line made⟩
  · rw [same]
    exact collect_ascends tree grammatical.ascending

def threeText : String := "import a from './a'\nexport \x7b b \x7d from './b'\nimport('./c')"

theorem inOrder_exact_three : (parse .typeScript threeText.toList).broken = false ∧
    (parse .typeScript threeText.toList).Grammatical ∧
    ∃ places : List (List Nat), places.length = 3 ∧ places.Pairwise (· < ·) ∧
      ∀ place, place ∈ places ↔ DeclaredAt (parse .typeScript threeText.toList) place := by
  have whole : (parse .typeScript threeText.toList).broken = false := by decide +kernel
  have count : (collect (parse .typeScript threeText.toList)).length = 3 := by decide +kernel
  obtain ⟨trees, texts⟩ := inOrder_exact
  have grammatical := texts .typeScript threeText.toList whole
  obtain ⟨⟨places, ascends, all, each⟩, -, same⟩ := trees _ grammatical
  rw [same] at each
  exact ⟨whole, grammatical, places, each.length_eq.trans count, ascends, all⟩

end ImportDeclaration

end UiContract
