import UiContract.Proofs.FollowedImports
import UiContract.Proofs.TreeOrder

/-!
Imports that stand in types, where `collect_imports` finds them. Declarations are looked for at every node of
a syntax tree that is not inside an import statement or an export from another module, and a call of `import`
makes the same declaration wherever it stands. So an import with a string literal that stands in a type is no
mere type, and the walk over the imports follows it.
-/
namespace UiContract

open Script

namespace ImportDeclaration

/-- Whether a node is a declaration as a whole, so that what stands inside it is not looked at. -/
def isWhole (tree : Tree) : Bool :=
  tree.kind == .importStatement || tree.kind == .exportStatement && (tree.part? .source).isSome

/-- The declaration that a node makes by itself. -/
def own? (tree : Tree) : Option ImportDeclaration :=
  if tree.kind == .importStatement then ofImport? tree
  else if tree.kind == .exportStatement && (tree.part? .source).isSome then ofExport? tree
  else if tree.kind == .call then ofCall? tree
  else none

mutual

def visited : Tree → List Tree
  | .node label children =>
      let tree := Script.Tree.node label children
      tree :: if isWhole tree then [] else visitedAmong children

def visitedAmong : List Tree → List Tree
  | [] => []
  | tree :: rest => visited tree ++ visitedAmong rest

end

/-- The nodes at which declarations are looked for and that stand in a type. -/
def inTypes (tree : Tree) : List Tree :=
  ((visited tree).filter fun part => part.kind == .typePosition).flatMap visited

def CallsImport (tree : Tree) (specifier : String) : Prop :=
  tree.kind = .call ∧ ∃ function arguments first,
    tree.part? .function = some function ∧ function.kind = .importWord ∧
    tree.part? .arguments = some arguments ∧
    arguments.children.find? Tree.isNamed = some first ∧ first.kind = .string ∧
    unquote first.text = specifier

def ofSpecifier (specifier : String) (line : Nat) : ImportDeclaration :=
  { specifier, bindings := [], typeOnly := false, kind := .dynamic, line }

section Visited

variable (tree : Tree)

theorem visitedAmong_eq (trees : List Tree) : visitedAmong trees = trees.flatMap visited := by
  induction trees with
  | nil => rfl
  | cons tree rest ih => rw [visitedAmong, ih, List.flatMap_cons]

theorem visited_eq :
    visited tree = tree :: if isWhole tree then [] else tree.children.flatMap visited := by
  obtain ⟨label, children⟩ := tree
  rw [visited, visitedAmong_eq]
  rfl

/-- A node that is taken from the stack gives the declaration that it makes by itself and, unless that is all
there is, leaves its parts on the stack. -/
theorem collectOn_cons (rest : List Tree) : collectOn (tree :: rest) =
    (own? tree).toList ++ collectOn ((if isWhole tree then [] else tree.children) ++ rest) := by
  obtain ⟨label, children⟩ := tree
  rw [collectOn]
  unfold own? isWhole Tree.kind Tree.children Tree.label
  dsimp only
  -- Only a call both declares something and has parts that are looked at.
  by_cases statement : (label.kind == .importStatement) = true
  · simp only [statement, if_true, Bool.true_or, List.nil_append]
  · by_cases passed : (label.kind == .exportStatement &&
        ((Script.Tree.node label children).part? .source).isSome) = true
    · simp only [statement, passed, if_true, Bool.or_true, List.nil_append, Bool.false_eq_true,
        if_false]
    · simp only [statement, passed, Bool.or_self, Bool.false_eq_true, if_false]
      split
      · rfl
      · rfl

theorem collectOn_eq (stack : List Tree) :
    collectOn stack = (stack.flatMap visited).filterMap own? := by
  induction size : Tree.sizeAmong stack using Nat.strong_induction_on generalizing stack with
  | _ count ih =>
      cases stack with
      | nil => rw [collectOn]; rfl
      | cons tree rest =>
          have smaller : Tree.sizeAmong ((if isWhole tree then [] else tree.children) ++ rest) < count := by
            obtain ⟨label, children⟩ := tree
            rw [← size, Tree.sizeAmong_append, Tree.sizeAmong, Tree.size, Tree.children]
            split
            · rw [Tree.sizeAmong]
              omega
            · omega
          have first : (visited tree).filterMap own? = (own? tree).toList ++
              (if isWhole tree then [] else tree.children.flatMap visited).filterMap own? := by
            rw [visited_eq, List.filterMap_cons]
            cases own? tree <;> rfl
          rw [collectOn_cons, ih _ smaller _ rfl, List.flatMap_cons, List.filterMap_append, first,
            List.append_assoc, List.flatMap_append, List.filterMap_append]
          split <;> rfl

/-- The declarations in a tree are those that the visited nodes make by themselves. -/
theorem collect_eq : collect tree = (visited tree).filterMap own? := by
  rw [collect, collectOn_eq, List.flatMap_cons, List.flatMap_nil, List.append_nil]

theorem mem_inOrder (declaration : ImportDeclaration) :
    declaration ∈ inOrder tree ↔ ∃ part ∈ visited tree, own? part = some declaration := by
  unfold inOrder
  rw [List.mem_mergeSort, collect_eq, List.mem_filterMap]

theorem visited_trans (part : Tree) (member : part ∈ visited tree) :
    visited part ⊆ visited tree := by
  induction tree using Tree.childrenInduction with
  | step tree ih =>
      rw [visited_eq] at member
      rcases List.mem_cons.mp member with rfl | below
      · exact List.Subset.refl _
      · intro inner inside
        rw [visited_eq]
        split at below
        · contradiction
        · rename_i opened
          obtain ⟨child, held, within⟩ := List.mem_flatMap.mp below
          rw [if_neg opened]
          exact List.mem_cons_of_mem _
            (List.mem_flatMap.mpr ⟨child, held, ih child held within inside⟩)

theorem inTypes_visited : inTypes tree ⊆ visited tree := by
  intro part member
  obtain ⟨position, held, inside⟩ := List.mem_flatMap.mp member
  exact visited_trans tree position (List.mem_filter.mp held).1 inside

end Visited

section Own

variable (tree : Tree) (declaration : ImportDeclaration)

/-- An import statement makes a static import, or one for side effects that binds nothing. -/
theorem ofImport_kind (made : ofImport? tree = some declaration) :
    declaration.kind = .static ∨ declaration.kind = .sideEffect ∧ declaration.bindings = [] := by
  unfold ofImport? at made
  dsimp only at made
  split at made
  · obtain ⟨specifier, -, made⟩ := Option.bind_eq_some_iff.mp made
    obtain ⟨localName, -, made⟩ := Option.bind_eq_some_iff.mp made
    rw [← Option.some.inj made]
    exact .inl rfl
  · obtain ⟨specifier, -, made⟩ := Option.bind_eq_some_iff.mp made
    split at made
    · rw [← Option.some.inj made]
      exact .inr ⟨rfl, rfl⟩
    · rw [← Option.some.inj made]
      exact .inl rfl

theorem ofExport_kind (made : ofExport? tree = some declaration) :
    declaration.kind = .reExport := by
  unfold ofExport? at made
  obtain ⟨specifier, -, made⟩ := Option.bind_eq_some_iff.mp made
  rw [← Option.some.inj made]

/-- A call makes a declaration just when it is one of `import` with a string literal. -/
theorem ofCall_iff (call : tree.kind = .call) : ofCall? tree = some declaration ↔
    ∃ specifier, CallsImport tree specifier ∧ declaration = ofSpecifier specifier tree.line := by
  unfold ofCall? CallsImport ofSpecifier
  constructor
  · intro made
    obtain ⟨function, isFunction, made⟩ := Option.bind_eq_some_iff.mp made
    obtain ⟨arguments, isArguments, made⟩ := Option.bind_eq_some_iff.mp made
    obtain ⟨first, isFirst, made⟩ := Option.bind_eq_some_iff.mp made
    split at made
    · rename_i written
      rw [Bool.and_eq_true, beq_iff_eq, beq_iff_eq] at written
      exact ⟨unquote first.text, ⟨call, function, arguments, first, isFunction, written.1,
        isArguments, isFirst, written.2, rfl⟩, (Option.some.inj made).symm⟩
    · contradiction
  · rintro ⟨_, ⟨-, function, arguments, first, isFunction, word, isArguments, isFirst, literal,
      rfl⟩, rfl⟩
    simp [isFunction, isArguments, isFirst, word, literal]

/-- The dynamic import that a node makes by itself is that of its call of `import`. -/
theorem own_dynamic_iff : own? tree = some declaration ∧ declaration.kind = .dynamic ↔
    ∃ specifier, CallsImport tree specifier ∧ declaration = ofSpecifier specifier tree.line := by
  constructor
  · -- Statements declare imports of the other kinds.
    rintro ⟨made, dynamic⟩
    unfold own? at made
    split at made
    · rcases ofImport_kind tree declaration made with other | ⟨other, -⟩ <;>
        exact absurd (dynamic.symm.trans other) (by decide)
    · split at made
      · exact absurd (dynamic.symm.trans (ofExport_kind tree declaration made)) (by decide)
      · split at made
        · rename_i call
          exact (ofCall_iff tree declaration (beq_iff_eq.mp call)).mp made
        · contradiction
  · rintro ⟨specifier, calls, rfl⟩
    have made := (ofCall_iff tree _ calls.1).mpr ⟨specifier, calls, rfl⟩
    refine ⟨?_, rfl⟩
    unfold own?
    rw [calls.1]
    exact made

end Own

end ImportDeclaration

namespace ImportEdge

open ImportDeclaration

variable (resolver : Resolver) (tree : FileTree)

def ofCall (importer : Path) (specifier : String) (line : Nat) : ImportEdge :=
  ofDeclaration resolver tree importer (ofSpecifier specifier line)

/-- The dynamic imports of a text are the calls of `import` with a string literal, in types and
elsewhere. -/
theorem extract_dynamic (importer : Path) (text : String) (edges : List ImportEdge)
    (script : (Language.ofPath importer).isScript = true)
    (extracted : extract resolver tree importer text = .ok edges) (edge : ImportEdge) :
    edge ∈ edges ∧ edge.kind = .dynamic ↔
      ∃ part ∈ visited (parse (Language.ofPath importer) text.toList), ∃ specifier,
        CallsImport part specifier ∧
          edge = ofCall resolver tree importer specifier part.line := by
  rw [extract_ok resolver tree extracted, if_pos script, List.mem_map]
  constructor
  · rintro ⟨⟨declaration, member, rfl⟩, dynamic⟩
    obtain ⟨part, seen, made⟩ := (mem_inOrder _ declaration).mp member
    obtain ⟨specifier, calls, rfl⟩ :=
      (own_dynamic_iff part declaration).mp ⟨made, dynamic⟩
    exact ⟨part, seen, specifier, calls, rfl⟩
  · rintro ⟨part, seen, specifier, calls, rfl⟩
    obtain ⟨made, dynamic⟩ := (own_dynamic_iff part _).mpr ⟨specifier, calls, rfl⟩
    exact ⟨⟨_, (mem_inOrder _ _).mpr ⟨part, seen, made⟩, rfl⟩, dynamic⟩

end ImportEdge

namespace ReachableSet

open Reachability ImportDeclaration

/-- The dynamic imports of a text are the calls of `import` with a string literal. None of them is a
mere type, and those that stand in types are among them: where a file with the text is in a set that was
built, what such an import leads to below the source root is in the set too. -/
theorem build_type_imports (resolver : Resolver) (tree : FileTree) (importer : Path) (text : String)
    (script : (Language.ofPath importer).isScript = true) (edges : List ImportEdge)
    (extracted : ImportEdge.extract resolver tree importer text = .ok edges) :
    let parsed := parse (Language.ofPath importer) text.toList
    (∀ edge, edge ∈ edges ∧ edge.kind = .dynamic ↔
        ∃ part ∈ visited parsed, ∃ specifier, CallsImport part specifier ∧
          edge = ImportEdge.ofCall resolver tree importer specifier part.line) ∧
      ∀ part ∈ inTypes parsed, ∀ specifier, CallsImport part specifier →
        ∃ edge ∈ edges, edge.typeOnly = false ∧ edge.kind = .dynamic ∧
          edge.specifier = specifier ∧ edge.line = part.line ∧
          edge.resolved = (resolver.resolve tree importer specifier).file? ∧
          ∀ sourceRoot entries reached, build resolver tree sourceRoot entries = .ok reached →
            reached.contains importer = true →
            (SourceFile.load tree resolver.root importer).content = .text text →
            ∀ target, edge.resolved = some target →
              target.startsWith (resolver.root.configured sourceRoot) = true →
              reached.contains target = true := by
  intro parsed
  have dynamic := ImportEdge.extract_dynamic resolver tree importer text edges script extracted
  refine ⟨dynamic, fun part inside specifier calls => ?_⟩
  obtain ⟨member, -⟩ := (dynamic _).mpr
    ⟨part, inTypes_visited parsed inside, specifier, calls, rfl⟩
  refine ⟨_, member, rfl, rfl, rfl, rfl, rfl, ?_⟩
  intro sourceRoot entries reached built known holds target found below
  have read : importsOf resolver tree importer = .ok edges := by
    unfold importsOf SourceFile.declaredImports
    rw [holds]
    dsimp only [SourceFile.load]
    rw [extracted]
  exact (build_contains built).1.follow importer target known
    ⟨edges, read, _, member, rfl, found, below⟩

def typedText : String := "let x: import('./b').T"

def typedTree : FileTree :=
  ((FileTree.add {} [['s', 'r', 'c'], ['a', '.', 't', 's']]
    (.file (Text.encode typedText.toList))).add [['s', 'r', 'c'], ['b', '.', 't', 's']]
    (.file (Text.encode "export type T = number".toList)))

def typedImport : ImportEdge :=
  { importer := ⟨"/src/a.ts"⟩, specifier := "./b", resolved := some ⟨"/src/b.ts"⟩, bindings := [],
    typeOnly := false, kind := .dynamic, line := 1 }

theorem inTypes_typed :
    ∃ part ∈ inTypes (parse .typeScript typedText.toList), CallsImport part "./b" := by
  have mentioned : ((inTypes (parse .typeScript typedText.toList)).any fun part =>
      part.kind == .call && (ofCall? part).any fun declaration => declaration.specifier == "./b") =
      true := by decide +kernel
  obtain ⟨part, inside, found⟩ := List.any_eq_true.mp mentioned
  rw [Bool.and_eq_true, beq_iff_eq, Option.any_eq_true] at found
  obtain ⟨call, declaration, made, same⟩ := found
  obtain ⟨specifier, calls, rfl⟩ := (ofCall_iff part declaration call).mp made
  rw [← show specifier = "./b" from beq_iff_eq.mp same]
  exact ⟨part, inside, calls⟩

theorem extract_typed :
    ImportEdge.extract plainResolver typedTree ⟨"/src/a.ts"⟩ typedText = .ok [typedImport] := by
  apply ok_of_toOption
  decide +kernel

theorem build_type_imports_typed : (Language.ofPath ⟨"/src/a.ts"⟩).isScript = true ∧
    ImportEdge.extract plainResolver typedTree ⟨"/src/a.ts"⟩ typedText = .ok [typedImport] ∧
    ∃ reached, build plainResolver typedTree "src" ["src/a.ts"] = .ok reached ∧
      reached.contains ⟨"/src/b.ts"⟩ = true := by
  have script : (Language.ofPath ⟨"/src/a.ts"⟩).isScript = true := by decide
  have holds : (SourceFile.load typedTree plainResolver.root ⟨"/src/a.ts"⟩).content =
      .text typedText := by decide +kernel
  obtain ⟨reached, built⟩ := exists_of_isOk (build plainResolver typedTree "src" ["src/a.ts"])
    (by decide +kernel)
  have known : (build plainResolver typedTree "src" ["src/a.ts"]).toOption.map
      (contains · ⟨"/src/a.ts"⟩) = some true := by decide +kernel
  rw [built] at known
  obtain ⟨part, inside, calls⟩ := inTypes_typed
  obtain ⟨-, followed⟩ := build_type_imports plainResolver typedTree ⟨"/src/a.ts"⟩ typedText script
    [typedImport] extract_typed
  obtain ⟨edge, member, -, -, -, -, -, leads⟩ := followed part inside "./b" calls
  rw [List.mem_singleton.mp member] at leads
  exact ⟨script, extract_typed, reached, built,
    leads _ _ reached built (Option.some.inj known) holds ⟨"/src/b.ts"⟩ rfl (by decide)⟩

/-- The text names the module in one call only, which stands in a type. The import is no mere type all
the same, and the module is reached. -/
theorem typed_import_reached :
    let parsed := parse (Language.ofPath ⟨"/src/a.ts"⟩) typedText.toList
    Language.ofPath ⟨"/src/a.ts"⟩ = .typeScript ∧
      (visited parsed).countP (fun part => part.kind == .call) = 1 ∧
      (∃ part ∈ inTypes parsed, CallsImport part "./b") ∧
      (∃ edges, ImportEdge.extract plainResolver typedTree ⟨"/src/a.ts"⟩ typedText = .ok edges ∧
        ∃ edge ∈ edges, edge.specifier = "./b" ∧ edge.typeOnly = false) ∧
      ∃ reached, build plainResolver typedTree "src" ["src/a.ts"] = .ok reached ∧
        reached.relativePaths = ["src/a.ts", "src/b.ts"] := by
  intro parsed
  refine ⟨by decide, by decide +kernel, inTypes_typed,
    ⟨_, extract_typed, typedImport, List.mem_cons_self, rfl, rfl⟩, ?_⟩
  obtain ⟨reached, built⟩ := exists_of_isOk (build plainResolver typedTree "src" ["src/a.ts"])
    (by decide +kernel)
  have paths : (build plainResolver typedTree "src" ["src/a.ts"]).toOption.map relativePaths =
      some ["src/a.ts", "src/b.ts"] := by decide +kernel
  rw [built] at paths
  exact ⟨reached, built, Option.some.inj paths⟩

end ReachableSet

end UiContract
