import UiContract.Proofs.DynamicImports

/-!
What declarations bind. An import or an export from another module binds one name for each of its specifiers
that is not marked as a type, in their order. The functions that read imports and exports, `import_statement`
and `reexport_statement`, are told here by one relation between a specifier and its binding, and the three
ways to import a default by one edge.
-/
namespace UiContract

open Script

namespace ImportDeclaration

def isTypeName (part : Tree) : Bool :=
  (part.kind == .importSpecifier || part.kind == .exportSpecifier) && isMarked part

def importedParts (part : Tree) : List Tree :=
  match part.kind with
  | .identifier | .namespaceImport => [part]
  | .namedImports => part.children.filter (·.kind == .importSpecifier)
  | _ => []

def exportedParts (part : Tree) : List Tree :=
  match part.kind with
  | .namespaceExport => [part]
  | .exportClause => part.children.filter (·.kind == .exportSpecifier)
  | _ => []

def specifiers (node : Tree) : List Tree :=
  if node.kind == .importStatement then
    match node.children.find? (·.kind == .importRequireClause) with
    | some clause => (clause.children.find? (·.kind == .identifier)).toList
    | none => ((node.children.find? (·.kind == .importClause)).toList.flatMap
        Tree.children).flatMap importedParts
  else node.children.flatMap exportedParts

def importSource? (node : Tree) : Option String :=
  match node.children.find? (·.kind == .importRequireClause) with
  | some clause => source? clause
  | none => source? node

def StandsFor (node : Tree) (name : String) : Prop :=
  (node.kind ≠ .string ∧ name = String.ofList node.text) ∨
    (node.kind = .string ∧ Quotes node.text name)

/-- What a specifier binds, where it is known by what name a default export goes that has some local
name. The name of an export does not depend on what it is renamed to. -/
inductive Yields (goesBy : String → String → Prop) : Tree → ImportBinding → Prop
  | plain {part localName name} (kind : part.kind = .identifier)
      (text : localName = String.ofList part.text) (goes : goesBy localName name) :
      Yields goesBy part (.defaultExport localName name)
  | importedWhole {part identifier} (kind : part.kind = .namespaceImport)
      (held : part.children.find? (·.kind == .identifier) = some identifier) :
      Yields goesBy part (.wholeModule (String.ofList identifier.text))
  | importedDefault {part word localName name} (kind : part.kind = .importSpecifier)
      (held : part.part? .name = some word) (stands : StandsFor word "default")
      (here : localName = (part.part? .renamed).elim "default" fun renamed =>
        String.ofList renamed.text) (goes : goesBy localName name) :
      Yields goesBy part (.defaultExport localName name)
  | imported {part word exported localName} (kind : part.kind = .importSpecifier)
      (held : part.part? .name = some word) (stands : StandsFor word exported)
      (other : exported ≠ "default")
      (here : localName = (part.part? .renamed).elim exported fun renamed =>
        String.ofList renamed.text) : Yields goesBy part (.named exported localName)
  | passed {part word exported localName} (kind : part.kind = .exportSpecifier)
      (held : part.part? .name = some word) (stands : StandsFor word exported)
      (kept : part.part? .renamed = none → localName = exported)
      (renamed : ∀ renamed, part.part? .renamed = some renamed → StandsFor renamed localName) :
      Yields goesBy part (.named exported localName)
  | passedWhole {part word exported} (kind : part.kind = .namespaceExport)
      (held : (part.children.filter Tree.isNamed).getLast? = some word)
      (stands : StandsFor word exported) : Yields goesBy part (.wholeModule exported)

def NamesDefault (part : Tree) (localName : String) : Prop :=
  (part.kind = .identifier ∧ localName = String.ofList part.text) ∨
    (part.kind = .importSpecifier ∧ isMarked part = false ∧ ∃ word renamed,
      part.part? .name = some word ∧ StandsFor word "default" ∧
      part.part? .renamed = some renamed ∧ localName = String.ofList renamed.text)

/-- An import of nothing but the default export of a module: `import X from m`,
`import { default as X } from m` or `import X = require(m)`. -/
structure ImportsDefault (node : Tree) (localName specifier : String) : Prop where
  statement : node.kind = .importStatement
  source : importSource? node = some specifier
  single : ∃ part, specifiers node = [part] ∧ NamesDefault part localName

section Lists

variable {First Second Third : Type} {related : First → Second → Prop}

theorem forall₂_filterMap (items : List First) (find? : First → Option Second)
    (each : ∀ item ∈ items, ∃ found, find? item = some found ∧ related item found) :
    List.Forall₂ related items (items.filterMap find?) := by
  induction items with
  | nil => exact .nil
  | cons item rest ih =>
      obtain ⟨found, gives, holds⟩ := each item List.mem_cons_self
      rw [List.filterMap_cons_some gives]
      exact .cons holds (ih fun other member => each other (List.mem_cons_of_mem _ member))

theorem forall₂_flatMap (items : List Third) (first : Third → List First)
    (second : Third → List Second)
    (each : ∀ item ∈ items, List.Forall₂ related (first item) (second item)) :
    List.Forall₂ related (items.flatMap first) (items.flatMap second) := by
  induction items with
  | nil => exact .nil
  | cons item rest ih =>
      rw [List.flatMap_cons, List.flatMap_cons]
      exact List.rel_append (each item List.mem_cons_self)
        (ih fun other member => each other (List.mem_cons_of_mem _ member))

end Lists

section Names

variable {node : Tree}

theorem standsFor_exportedName (complete : node.Complete) : StandsFor node (exportedName node) := by
  unfold exportedName
  split
  · rename_i string
    rw [beq_iff_eq] at string
    unfold Tree.Complete at complete
    rw [string] at complete
    exact .inr ⟨string, quotes_unquote complete⟩
  · rename_i other
    exact .inl ⟨fun string => other (beq_iff_eq.mpr string), rfl⟩

theorem exportedName_of_standsFor {name : String} (stands : StandsFor node name) :
    exportedName node = name := by
  unfold exportedName
  rcases stands with ⟨other, rfl⟩ | ⟨string, quotes⟩
  · rw [if_neg fun string => other (beq_iff_eq.mp string)]
  · rw [if_pos (beq_iff_eq.mpr string)]
    exact unquote_of_quotes quotes

end Names

section Parts

variable {part : Tree} (module : Option String)

def Binds (part : Tree) (binding : WrittenBinding) : Prop :=
  Yields (fun localName name => name = module.getD localName) part (ImportEdge.bind module binding)

theorem exists_name (kind : part.kind = .importSpecifier ∨ part.kind = .exportSpecifier)
    (complete : ∀ node ∈ part.nodes, node.Complete) : ∃ name, part.part? .name = some name := by
  have self := complete part part.self_mem_nodes
  unfold Tree.Complete at self
  rcases kind with kind | kind
  · rw [kind] at self
    exact Option.isSome_iff_exists.mp self
  · rw [kind] at self
    exact Option.isSome_iff_exists.mp self

theorem standsFor_part {role : Role} {name : Tree} (complete : ∀ node ∈ part.nodes, node.Complete)
    (held : part.part? role = some name) : StandsFor name (exportedName name) :=
  standsFor_exportedName
    (complete name (Tree.child_nodes (List.mem_of_find?_eq_some held) name.self_mem_nodes))

theorem importedBinding_binds (kind : part.kind = .importSpecifier)
    (complete : ∀ node ∈ part.nodes, node.Complete) : ∃ binding,
    importedBinding? part = some binding ∧ Binds module part binding := by
  obtain ⟨name, held⟩ := exists_name (.inl kind) complete
  have stands := standsFor_part complete held
  unfold importedBinding?
  simp only [held, Option.bind_eq_bind, Option.bind_some]
  split
  · rename_i same
    rw [beq_iff_eq] at same
    rw [same] at stands ⊢
    refine ⟨_, rfl, .importedDefault kind held stands ?_ rfl⟩
    cases part.part? .renamed <;> rfl
  · rename_i other
    refine ⟨_, rfl, .imported kind held stands (fun same => other (beq_iff_eq.mpr same)) ?_⟩
    cases part.part? .renamed <;> rfl

theorem exportedBinding_binds (kind : part.kind = .exportSpecifier)
    (complete : ∀ node ∈ part.nodes, node.Complete) : ∃ binding,
    exportedBinding? part = some binding ∧ Binds module part binding := by
  obtain ⟨name, held⟩ := exists_name (.inr kind) complete
  unfold exportedBinding?
  simp only [held, Option.bind_eq_bind, Option.bind_some]
  refine ⟨_, rfl, .passed kind held (standsFor_part complete held) (fun kept => ?_)
    fun renamed found => ?_⟩
  · rw [kept]
    rfl
  · rw [found]
    exact standsFor_part complete found

theorem isTypeName_eq (kind : part.kind = .importSpecifier ∨ part.kind = .exportSpecifier) :
    isTypeName part = isMarked part := by
  unfold isTypeName
  rcases kind with kind | kind
  · simp [kind]
  · simp [kind]

/-- The names in braces that are not marked bind what each of them is read as. -/
theorem names_bind {kind : Kind} (names : kind = .importSpecifier ∨ kind = .exportSpecifier)
    (part : Tree) (read? : Tree → Option WrittenBinding)
    (each : ∀ name ∈ part.children, name.kind = kind →
      ∃ binding, read? name = some binding ∧ Binds module name binding) :
    List.Forall₂ (Binds module)
      ((part.children.filter (·.kind == kind)).filter fun part => !isTypeName part)
      ((unmarked kind part).filterMap read?) := by
  have same : (part.children.filter (·.kind == kind)).filter (fun part => !isTypeName part) =
      unmarked kind part := by
    unfold unmarked
    rw [List.filter_filter]
    refine List.filter_congr fun name _ => ?_
    by_cases held : name.kind = kind
    · rw [isTypeName_eq (held ▸ names), Bool.and_comm]
    · simp [beq_eq_false_iff_ne.mpr held]
  rw [same]
  refine forall₂_filterMap _ _ fun name member => ?_
  obtain ⟨held, plain⟩ := List.mem_filter.mp member
  rw [Bool.and_eq_true, beq_iff_eq] at plain
  exact each name held plain.1

/-- What one part of an import brings in is what its specifiers yield that are not marked. -/
theorem importBindings_binds (complete : ∀ node ∈ part.nodes, node.Complete) :
    List.Forall₂ (Binds module) ((importedParts part).filter fun part => !isTypeName part)
      (importBindings part) := by
  have self := complete part part.self_mem_nodes
  unfold importedParts importBindings
  cases kind : part.kind with
  | identifier =>
      rw [List.filter_cons_of_pos (by simp [isTypeName, kind])]
      exact .cons (Yields.plain kind rfl rfl) .nil
  | namespaceImport =>
      unfold Tree.Complete at self
      rw [kind] at self
      obtain ⟨name, member, identifier⟩ := self
      obtain ⟨first, held⟩ : ∃ first, part.children.find? (·.kind == .identifier) = some first :=
        Option.isSome_iff_exists.mp (List.find?_isSome.mpr ⟨name, member, by simp [identifier]⟩)
      unfold firstName?
      rw [List.filter_cons_of_pos (by simp [isTypeName, kind]), held]
      exact .cons (Yields.importedWhole kind held) .nil
  | namedImports =>
      have each := fun name (member : name ∈ part.children) kind =>
        importedBinding_binds module kind fun node inside =>
          complete node (Tree.child_nodes member inside)
      exact names_bind module (by simp) part _ each
  | _ => exact .nil

/-- What one part of an export passes on is what its specifiers yield that are not marked. -/
theorem exportBindings_binds (complete : ∀ node ∈ part.nodes, node.Complete) :
    List.Forall₂ (Binds module) ((exportedParts part).filter fun part => !isTypeName part)
      (exportBindings part) := by
  have self := complete part part.self_mem_nodes
  unfold exportedParts exportBindings
  cases kind : part.kind with
  | namespaceExport =>
      unfold Tree.Complete at self
      rw [kind] at self
      obtain ⟨name, member, named⟩ := self
      have filled : part.children.filter Tree.isNamed ≠ [] :=
        List.ne_nil_of_mem (List.mem_filter.mpr ⟨member, named⟩)
      have held := List.getLast?_eq_some_getLast filled
      have last := List.mem_of_mem_filter (List.getLast_mem filled)
      rw [List.filter_cons_of_pos (by simp [isTypeName, kind])]
      dsimp only
      rw [held]
      refine .cons (Yields.passedWhole kind held (standsFor_exportedName ?_)) .nil
      exact complete _ (Tree.child_nodes last (Tree.self_mem_nodes _))
  | exportClause =>
      have each := fun name (member : name ∈ part.children) kind =>
        exportedBinding_binds module kind fun node inside =>
          complete node (Tree.child_nodes member inside)
      exact names_bind module (by simp) part _ each
  | _ => exact .nil

theorem any_isTypeName {kind : Kind} (names : kind = .importSpecifier ∨ kind = .exportSpecifier)
    (part : Tree) :
    (part.children.filter (·.kind == kind)).any isTypeName = hasMarked kind part := by
  unfold hasMarked
  rw [List.any_filter]
  refine List.any_congr rfl fun name => ?_
  by_cases held : name.kind = kind
  · rw [isTypeName_eq (held ▸ names)]
  · simp [beq_eq_false_iff_ne.mpr held]

theorem importedParts_any (part : Tree) : (importedParts part).any isTypeName =
    (part.isNamed && (part.kind == .namedImports && hasMarked .importSpecifier part)) := by
  unfold importedParts Tree.isNamed
  cases kind : part.kind with
  | namedImports => exact any_isTypeName (.inl rfl) part
  | identifier | namespaceImport =>
      rw [List.any_cons, isTypeName, kind]
      rfl
  | _ => rfl

theorem exportedParts_any (part : Tree) : (exportedParts part).any isTypeName =
    (part.isNamed && (part.kind == .exportClause && hasMarked .exportSpecifier part)) := by
  unfold exportedParts Tree.isNamed
  cases kind : part.kind with
  | exportClause => exact any_isTypeName (.inr rfl) part
  | namespaceExport =>
      rw [List.any_cons, isTypeName, kind]
      rfl
  | _ => rfl

end Parts

section Declarations

variable {node : Tree} {declaration : ImportDeclaration} (module : Option String)

/-- What a declaration says of its specifiers: the ones that are not marked bind, and it is a mere type
where it is marked itself, or where it has marked specifiers and nothing is bound. -/
structure Tells (node : Tree) (declaration : ImportDeclaration) : Prop where
  bindings : List.Forall₂ (Binds module)
    ((specifiers node).filter fun part => !isTypeName part) declaration.bindings
  typeOnly : declaration.typeOnly = true ↔ isMarked node = true ∨
    (∃ part ∈ specifiers node, isTypeName part = true) ∧ declaration.bindings = []

theorem kind_of_word {part : Tree} (word : part.isNamed = false) : part.kind = .word := by
  unfold Tree.isNamed at word
  simpa using word

theorem flatMap_named (parts : List Tree) (bindings : Tree → List WrittenBinding)
    (silent : ∀ part, part.isNamed = false → bindings part = []) :
    (parts.filter Tree.isNamed).flatMap bindings = parts.flatMap bindings := by
  induction parts with
  | nil => rfl
  | cons part rest ih =>
      rw [List.filter_cons, List.flatMap_cons]
      split
      · rw [List.flatMap_cons, ih]
      · rename_i word
        rw [ih, silent part (Bool.eq_false_iff.mpr word), List.nil_append]

/-- Parts that are read one after the other, where each binds what its specifiers yield. -/
theorem tells_of_parts (parts : List Tree) (listKind nameKind : Kind)
    (split : Tree → List Tree) (bindings : Tree → List WrittenBinding)
    (silent : ∀ part, part.isNamed = false → bindings part = [])
    (each : ∀ part ∈ parts, List.Forall₂ (Binds module)
      ((split part).filter fun part => !isTypeName part) (bindings part))
    (any : ∀ part, (split part).any isTypeName =
      (part.isNamed && (part.kind == listKind && hasMarked nameKind part)))
    (whole : specifiers node = parts.flatMap split)
    (bound : declaration.bindings = (parts.filter Tree.isNamed).flatMap bindings)
    (erased : declaration.typeOnly = (isMarked node || (declaration.bindings.isEmpty &&
      (parts.filter Tree.isNamed).any fun part => part.kind == listKind && hasMarked nameKind part))) :
    Tells module node declaration where
  bindings := by
    rw [whole, bound, flatMap_named parts bindings silent, List.filter_flatMap]
    exact forall₂_flatMap parts _ _ each
  typeOnly := by
    have types : (∃ part ∈ specifiers node, isTypeName part = true) ↔
        ((parts.filter Tree.isNamed).any fun part =>
          part.kind == listKind && hasMarked nameKind part) = true := by
      rw [← List.any_eq_true, whole, List.any_flatMap, List.any_filter]
      simp only [any]
    rw [types, erased, Bool.or_eq_true, Bool.and_eq_true, List.isEmpty_iff, and_comm]

theorem ofExport_tells (passed : node.kind = .exportStatement)
    (complete : ∀ part ∈ node.nodes, part.Complete) (made : ofExport? node = some declaration) :
    Tells module node declaration := by
  unfold ofExport? at made
  obtain ⟨specifier, -, made⟩ := Option.bind_eq_some_iff.mp made
  have made := Option.some.inj made
  refine tells_of_parts module node.children .exportClause .exportSpecifier exportedParts
    exportBindings ?_ (fun part member => ?_) exportedParts_any ?_ ?_ ?_
  · intro part word
    unfold exportBindings
    rw [kind_of_word word]
  · exact exportBindings_binds module fun other inside =>
      complete other (Tree.child_nodes member inside)
  · unfold specifiers
    rw [passed]
    rfl
  · rw [← made]
  · rw [← made]

theorem specifiers_require {clause : Tree} (statement : node.kind = .importStatement)
    (found : node.children.find? (·.kind == .importRequireClause) = some clause) :
    specifiers node = (clause.children.find? (·.kind == .identifier)).toList := by
  unfold specifiers
  rw [statement, if_pos (beq_self_eq_true _), found]

theorem specifiers_direct (statement : node.kind = .importStatement)
    (direct : node.children.find? (·.kind == .importRequireClause) = none) :
    specifiers node = ((node.children.find? (·.kind == .importClause)).toList.flatMap
      Tree.children).flatMap importedParts := by
  unfold specifiers
  rw [statement, if_pos (beq_self_eq_true _), direct]

theorem ofImport_tells (statement : node.kind = .importStatement)
    (complete : ∀ part ∈ node.nodes, part.Complete) (made : ofImport? node = some declaration) :
    Tells module node declaration := by
  unfold ofImport? at made
  dsimp only at made
  split at made
  · -- The module stands in a clause of its own.
    rename_i clause found
    obtain ⟨specifier, -, made⟩ := Option.bind_eq_some_iff.mp made
    obtain ⟨localName, held, made⟩ := Option.bind_eq_some_iff.mp made
    obtain ⟨name, first, rfl⟩ := Option.map_eq_some_iff.mp held
    have identifier := List.find?_some first
    have kind : name.kind = .identifier := beq_iff_eq.mp identifier
    have whole : specifiers node = [name] := by
      rw [specifiers_require statement found, first, Option.toList_some]
    have plain : isTypeName name = false := by simp [isTypeName, kind]
    rw [← Option.some.inj made]
    constructor
    · rw [whole, List.filter_cons_of_pos (by rw [plain]; rfl)]
      exact .cons (Yields.plain kind rfl rfl) .nil
    · simp [whole, plain]
  · rename_i direct
    obtain ⟨specifier, -, made⟩ := Option.bind_eq_some_iff.mp made
    split at made
    · -- Nothing is brought in.
      rename_i absent
      have whole : specifiers node = [] := by
        rw [specifiers_direct statement direct, absent]
        rfl
      rw [← Option.some.inj made]
      constructor
      · rw [whole]
        exact .nil
      · simp [whole]
    · rename_i clause found
      have made := Option.some.inj made
      have within := Tree.child_nodes (List.mem_of_find?_eq_some found)
      refine tells_of_parts module clause.children .namedImports .importSpecifier importedParts
        importBindings ?_ (fun part member => ?_) importedParts_any ?_ ?_ ?_
      · intro part word
        unfold importBindings
        rw [kind_of_word word]
      · exact importBindings_binds module fun other inside =>
          complete other (within (Tree.child_nodes member inside))
      · rw [specifiers_direct statement direct, found, Option.toList_some, List.flatMap_singleton]
      · rw [← made]
      · rw [← made]

theorem ofImport_source (made : ofImport? node = some declaration) :
    importSource? node = some declaration.specifier := by
  unfold ofImport? at made
  dsimp only at made
  split at made
  · rename_i clause found
    have named : importSource? node = source? clause := by
      unfold importSource?
      rw [found]
    obtain ⟨specifier, source, made⟩ := Option.bind_eq_some_iff.mp made
    obtain ⟨localName, -, made⟩ := Option.bind_eq_some_iff.mp made
    rw [named, ← Option.some.inj made]
    exact source
  · rename_i direct
    have named : importSource? node = source? node := by
      unfold importSource?
      rw [direct]
    obtain ⟨specifier, source, made⟩ := Option.bind_eq_some_iff.mp made
    rw [named]
    split at made
    · rw [← Option.some.inj made]
      exact source
    · rw [← Option.some.inj made]
      exact source

theorem ofImport_static (statement : node.kind = .importStatement)
    (made : ofImport? node = some declaration) (filled : specifiers node ≠ []) :
    declaration.kind = .static := by
  unfold ofImport? at made
  dsimp only at made
  split at made
  · obtain ⟨specifier, -, made⟩ := Option.bind_eq_some_iff.mp made
    obtain ⟨localName, -, made⟩ := Option.bind_eq_some_iff.mp made
    rw [← Option.some.inj made]
  · rename_i direct
    obtain ⟨specifier, -, made⟩ := Option.bind_eq_some_iff.mp made
    split at made
    · rename_i absent
      rw [specifiers_direct statement direct, absent] at filled
      contradiction
    · rw [← Option.some.inj made]

theorem own_whole (made : own? node = some declaration) :
    isWhole node = (declaration.kind != .dynamic) := by
  have kinds := made
  unfold own? at kinds
  unfold isWhole
  split at kinds
  · rename_i statement
    rw [statement, Bool.true_or]
    rcases ofImport_kind node declaration kinds with static | ⟨sideEffect, -⟩
    · rw [static]
      rfl
    · rw [sideEffect]
      rfl
  · rename_i other
    rw [Bool.eq_false_iff.mpr other, Bool.false_or]
    split at kinds
    · rename_i passed
      rw [passed, ofExport_kind node declaration kinds]
      rfl
    · rename_i kept
      rw [Bool.eq_false_iff.mpr kept]
      split at kinds
      · rename_i call
        obtain ⟨specifier, -, rfl⟩ := (ofCall_iff node declaration (beq_iff_eq.mp call)).mp kinds
        rfl
      · contradiction

theorem own_of_whole (whole : isWhole node = true)
    (complete : ∀ part ∈ node.nodes, part.Complete) : (own? node).isSome = true := by
  rw [own_isSome_iff complete]
  unfold isWhole at whole
  rw [Bool.or_eq_true, Bool.and_eq_true, beq_iff_eq, beq_iff_eq] at whole
  rcases whole with statement | passed
  · exact .inl statement
  · exact .inr (.inl passed)

theorem own_tells (whole : isWhole node = true) (complete : ∀ part ∈ node.nodes, part.Complete)
    (made : own? node = some declaration) : Tells module node declaration := by
  unfold own? at made
  split at made
  · rename_i statement
    exact ofImport_tells module (beq_iff_eq.mp statement) complete made
  · rename_i other
    split at made
    · rename_i passed
      rw [Bool.and_eq_true, beq_iff_eq] at passed
      exact ofExport_tells module passed.1 complete made
    · rename_i kept
      unfold isWhole at whole
      rw [Bool.eq_false_iff.mpr other, Bool.eq_false_iff.mpr kept] at whole
      contradiction

theorem Yields.mono {part : Tree} {binding : ImportBinding} {goesBy goes : String → String → Prop}
    (yields : Yields goesBy part binding)
    (wider : ∀ localName name, goesBy localName name → goes localName name) :
    Yields goes part binding := by
  cases yields with
  | plain kind text known => exact .plain kind text (wider _ _ known)
  | importedWhole kind held => exact .importedWhole kind held
  | importedDefault kind held stands here known =>
      exact .importedDefault kind held stands here (wider _ _ known)
  | imported kind held stands other here => exact .imported kind held stands other here
  | passed kind held stands kept renamed => exact .passed kind held stands kept renamed
  | passedWhole kind held stands => exact .passedWhole kind held stands

theorem binding_of_namesDefault {part : Tree} {localName : String} {binding : WrittenBinding}
    (names : NamesDefault part localName) (binds : Binds module part binding) :
    binding = .defaultExport localName := by
  unfold Binds ImportEdge.bind at binds
  cases binding with
  | defaultExport other =>
      dsimp only at binds
      refine congrArg _ ?_
      cases binds with
      | plain kind text goes =>
          rcases names with ⟨-, same⟩ | ⟨specifier, -⟩
          · rw [text, same]
          · rw [kind] at specifier
            contradiction
      | importedDefault kind held stands here goes =>
          rcases names with ⟨identifier, -⟩ | ⟨-, -, word, renamed, -, -, found, same⟩
          · rw [kind] at identifier
            contradiction
          · rw [here, found, same]
            rfl
  | named exported other =>
      dsimp only at binds
      exfalso
      rcases names with ⟨identifier, -⟩ | ⟨specifier, -, word, renamed, named, byDefault, -⟩
      · cases binds with
        | imported kind | passed kind =>
            rw [kind] at identifier
            contradiction
      · cases binds with
        | imported kind held stands apart here =>
            obtain rfl := Option.some.inj (held.symm.trans named)
            exact apart ((exportedName_of_standsFor stands).symm.trans
              (exportedName_of_standsFor byDefault))
        | passed kind =>
            rw [kind] at specifier
            contradiction
  | wholeModule other =>
      dsimp only at binds
      exfalso
      cases binds with
      | importedWhole kind | passedWhole kind =>
          rcases names with ⟨other, -⟩ | ⟨other, -⟩
          · rw [kind] at other
            contradiction
          · rw [kind] at other
            contradiction

theorem bindings_of_importsDefault {localName specifier : String}
    (imports : ImportsDefault node localName specifier) (tells : Tells module node declaration) :
    declaration.bindings = [.defaultExport localName] ∧
      declaration.typeOnly = isMarked node := by
  obtain ⟨part, whole, form⟩ := imports.single
  have plain : isTypeName part = false := by
    rcases form with ⟨kind, -⟩ | ⟨-, unmarked, -⟩
    · simp [isTypeName, kind]
    · simp [isTypeName, unmarked]
  have bindings := tells.bindings
  have typeOnly := tells.typeOnly
  rw [whole, List.filter_cons_of_pos (by rw [plain]; rfl), List.filter_nil] at bindings
  obtain ⟨binding, rest, yields, none, bound⟩ := List.forall₂_cons_left_iff.mp bindings
  rw [List.forall₂_nil_left_iff.mp none] at bound
  rw [bound] at typeOnly ⊢
  refine ⟨?_, ?_⟩
  · rw [binding_of_namesDefault module form yields]
  · rw [Bool.eq_iff_iff]
    simpa using typeOnly

def ofDefault (localName specifier : String) (typeOnly : Bool) (line : Nat) : ImportDeclaration :=
  { specifier, bindings := [.defaultExport localName], typeOnly, kind := .static, line }

/-- However the default export of a module is imported, the declaration is the same. -/
theorem own_of_importsDefault {localName specifier : String}
    (imports : ImportsDefault node localName specifier)
    (complete : ∀ part ∈ node.nodes, part.Complete) (made : own? node = some declaration) :
    declaration = ofDefault localName specifier (isMarked node) node.line := by
  have read : ofImport? node = some declaration := by
    unfold own? at made
    rwa [imports.statement, if_pos (beq_self_eq_true _)] at made
  obtain ⟨bound, marked⟩ := bindings_of_importsDefault none imports
    (ofImport_tells none imports.statement complete read)
  have source := (ofImport_source read).symm.trans imports.source
  obtain ⟨part, whole, -⟩ := imports.single
  have static := ofImport_static imports.statement read (by rw [whole]; exact List.cons_ne_nil _ _)
  have line := own_line made
  obtain ⟨other, bindings, typeOnly, kind, start⟩ := declaration
  dsimp only at bound marked source static line
  rw [bound, marked, static, line, Option.some.inj source]
  rfl

end Declarations

end ImportDeclaration

namespace ImportEdge

open ImportDeclaration

def BaseNamed (specifier name : String) : Prop :=
  ∃ front piece back base,
    Text.pieces (· == '/') (Text.before (fun character => character == '?' || character == '#')
      specifier.toList) = front ++ piece :: back ∧
    piece ∉ [[], ['.'], ['.', '.']] ∧ (∀ other ∈ back, other ∈ [[], ['.'], ['.', '.']]) ∧
    (Path.mk (String.ofList piece)).moduleName? = some base ∧ name = String.ofList base

/-- The name of a default export: the base name of the file that was found, else that of the
specifier, else the local name. -/
def GoesBy (resolved : Option Path) (specifier localName name : String) : Prop :=
  (∃ base, resolved.bind Path.moduleName? = some base ∧ name = String.ofList base) ∨
    resolved.bind Path.moduleName? = none ∧
      (BaseNamed specifier name ∨ (∀ other, ¬ BaseNamed specifier other) ∧ name = localName)

section Default

theorem find_reverse_iff {Item : Type} (items : List Item) (test : Item → Bool) (found : Item) :
    items.reverse.find? test = some found ↔ test found = true ∧
      ∃ front back, items = front ++ found :: back ∧ ∀ other ∈ back, test other = false := by
  rw [List.find?_eq_some_iff_append]
  refine and_congr_right fun _ => ?_
  constructor
  · rintro ⟨behind, before, whole, none⟩
    refine ⟨before.reverse, behind.reverse, ?_, fun other member => ?_⟩
    · rw [← List.reverse_reverse items, whole]
      simp
    · simpa using none other (List.mem_reverse.mp member)
  · rintro ⟨front, back, rfl, none⟩
    refine ⟨back.reverse, front.reverse, by simp, fun other member => ?_⟩
    rw [none other (List.mem_reverse.mp member)]
    rfl

theorem specifierName_iff (specifier name : String) :
    specifierName? specifier = some name ↔ BaseNamed specifier name := by
  unfold specifierName? BaseNamed
  simp only [Option.bind_eq_bind, Option.bind_eq_some_iff, find_reverse_iff, Option.some.injEq]
  constructor
  · rintro ⟨piece, ⟨proper, front, back, whole, none⟩, base, named, rfl⟩
    refine ⟨front, piece, back, base, whole, ?_, fun other member => ?_, named, rfl⟩
    · simpa [and_assoc] using proper
    · have improper := none other member
      simp only [Bool.and_eq_false_iff, bne_eq_false_iff_eq] at improper
      simpa [or_assoc] using improper
  · rintro ⟨front, piece, back, base, whole, proper, none, named, rfl⟩
    refine ⟨piece, ⟨?_, front, back, whole, fun other member => ?_⟩, base, named, rfl⟩
    · simpa [and_assoc] using proper
    · have improper := none other member
      simp only [Bool.and_eq_false_iff, bne_eq_false_iff_eq]
      simpa [or_assoc] using improper

theorem moduleName_goesBy (resolved : Option Path) (specifier localName : String) :
    GoesBy resolved specifier localName ((moduleName? resolved specifier).getD localName) := by
  unfold moduleName?
  cases found : resolved.bind Path.moduleName? with
  | some base => exact .inl ⟨base, found, rfl⟩
  | none =>
      refine .inr ⟨found, ?_⟩
      cases named : specifierName? specifier with
      | some name => exact .inl ((specifierName_iff specifier name).mp named)
      | none =>
          refine .inr ⟨fun other base => ?_, rfl⟩
          rw [(specifierName_iff specifier other).mpr base] at named
          contradiction

end Default

variable (resolver : Resolver) (tree : FileTree) (importer : Path)

def ofDefault (localName specifier : String) (typeOnly : Bool) (line : Nat) : ImportEdge :=
  ofDeclaration resolver tree importer
    (ImportDeclaration.ofDefault localName specifier typeOnly line)

/-- What an edge says of its declaration: each specifier that is not marked binds one name, and the
edge is a mere type where the declaration is marked, or where it has marked specifiers and nothing is
bound. Imports of the default export alone make one edge. -/
structure Describes (node : Tree) (edge : ImportEdge) : Prop where
  line : edge.line = node.line
  bindings : List.Forall₂ (Yields (GoesBy edge.resolved edge.specifier))
    ((specifiers node).filter fun part => !isTypeName part) edge.bindings
  typeOnly : edge.typeOnly = true ↔ isMarked node = true ∨
    (∃ part ∈ specifiers node, isTypeName part = true) ∧ edge.bindings = []
  byDefault : ∀ localName specifier, ImportsDefault node localName specifier →
    edge = ofDefault resolver tree importer localName specifier (isMarked node) node.line

theorem describes_of_own {node : Tree} {declaration : ImportDeclaration}
    (whole : isWhole node = true) (complete : ∀ part ∈ node.nodes, part.Complete)
    (made : own? node = some declaration) :
    Describes resolver tree importer node (ofDeclaration resolver tree importer declaration) := by
  have tells := own_tells (moduleName? (resolver.resolve tree importer declaration.specifier).file?
    declaration.specifier) whole complete made
  constructor
  · exact own_line made
  · unfold ofDeclaration
    dsimp only
    rw [List.forall₂_map_right_iff]
    refine tells.bindings.imp fun part binding binds => binds.mono fun localName name same => ?_
    rw [same]
    exact moduleName_goesBy _ _ localName
  · unfold ofDeclaration
    dsimp only
    rw [List.map_eq_nil_iff]
    exact tells.typeOnly
  · intro localName specifier imports
    rw [own_of_importsDefault imports complete made]
    rfl

/-- The edges of a text that can be read, dynamic imports aside, are those of its whole declarations:
in their order, each describes its own. An import of the default export alone has one binding, with the
local name and the name that the module goes by. -/
theorem extract_bindings (text : String) (script : (Language.ofPath importer).isScript = true)
    (whole : (parse (Language.ofPath importer) text.toList).broken = false) :
    let parsed := parse (Language.ofPath importer) text.toList
    ∃ edges, extract resolver tree importer text = .ok edges ∧
      List.Forall₂ (Describes resolver tree importer) ((visited parsed).filter isWhole)
        (edges.filter fun edge => edge.kind != .dynamic) ∧
      ∀ localName specifier typeOnly line,
        let edge := ofDefault resolver tree importer localName specifier typeOnly line
        ∃ name, edge.bindings = [.defaultExport localName name] ∧
          GoesBy edge.resolved specifier localName name := by
  intro parsed
  refine ⟨_, extract_whole resolver tree importer text script whole, ?_,
    fun localName specifier typeOnly line => ⟨_, rfl, moduleName_goesBy _ _ localName⟩⟩
  have kept : ((visited parsed).filterMap own?).filter (fun made => made.kind != .dynamic) =
      ((visited parsed).filter isWhole).filterMap own? := by
    rw [List.filter_filterMap, List.filterMap_filter]
    refine List.filterMap_congr fun node _ => ?_
    cases made : own? node with
    | none => simp
    | some declaration => rw [Option.filter_some, own_whole made]
  rw [List.filter_map, List.forall₂_map_right_iff, collect_eq]
  change List.Forall₂ _ _ (((visited parsed).filterMap own?).filter fun made =>
    made.kind != .dynamic)
  rw [kept]
  refine forall₂_filterMap _ own? fun node member => ?_
  obtain ⟨seen, isDeclaration⟩ := List.mem_filter.mp member
  have complete := complete_of_visited (grammatical_of_parse whole).complete seen
  obtain ⟨declaration, made⟩ := Option.isSome_iff_exists.mp (own_of_whole isDeclaration complete)
  exact ⟨declaration, made, describes_of_own resolver tree importer isDeclaration complete made⟩

def bracedText : String := "import \x7b default as X \x7d from './m'"

theorem extract_bindings_braced :
    let parsed := parse (Language.ofPath ⟨"/repo/src/f.ts"⟩) bracedText.toList
    (Language.ofPath ⟨"/repo/src/f.ts"⟩).isScript = true ∧ parsed.broken = false ∧
      ∃ node ∈ visited parsed, ImportsDefault node "X" "./m" ∧
        ∃ edges, extract ReachableSet.plainResolver {} ⟨"/repo/src/f.ts"⟩ bracedText = .ok edges ∧
          ofDefault ReachableSet.plainResolver {} ⟨"/repo/src/f.ts"⟩ "X" "./m" (isMarked node)
            node.line ∈ edges := by
  intro parsed
  have script : (Language.ofPath ⟨"/repo/src/f.ts"⟩).isScript = true := by decide
  have unbroken : parsed.broken = false := by decide +kernel
  have one : ((visited parsed).filter isWhole).map (fun node => (node.kind, importSource? node)) =
      [(.importStatement, some "./m")] := by decide +kernel
  have parts : (((visited parsed).filter isWhole).flatMap specifiers).map (fun part =>
      (part.kind, isMarked part)) = [(.importSpecifier, false)] := by decide +kernel
  have words : (((visited parsed).filter isWhole).flatMap specifiers).map (fun part =>
      (part.part? .name).map fun word => (word.kind, word.text)) =
        [some (.identifier, "default".toList)] := by decide +kernel
  have names : (((visited parsed).filter isWhole).flatMap specifiers).map (fun part =>
      (part.part? .renamed).map Tree.text) = [some ['X']] := by decide +kernel
  obtain ⟨node, only, held⟩ := List.map_eq_singleton_iff.mp one
  rw [only, List.flatMap_singleton] at parts words names
  obtain ⟨part, single, read⟩ := List.map_eq_singleton_iff.mp parts
  rw [single, List.map_singleton, List.singleton_inj] at words names
  obtain ⟨word, named, spelled⟩ := Option.map_eq_some_iff.mp words
  obtain ⟨renamed, found, called⟩ := Option.map_eq_some_iff.mp names
  obtain ⟨statement, source⟩ := Prod.mk.inj held
  obtain ⟨kind, unmarked⟩ := Prod.mk.inj read
  obtain ⟨identifier, text⟩ := Prod.mk.inj spelled
  have imports : ImportsDefault node "X" "./m" :=
    ⟨statement, source, part, single, .inr ⟨kind, unmarked, word, renamed, named,
      .inl ⟨by rw [identifier]; decide, by rw [text]; rfl⟩, found, by rw [called]⟩⟩
  obtain ⟨edges, extracted, each, -⟩ :=
    extract_bindings ReachableSet.plainResolver {} ⟨"/repo/src/f.ts"⟩ bracedText script unbroken
  rw [only] at each
  obtain ⟨edge, rest, describes, -, whole⟩ := List.forall₂_cons_left_iff.mp each
  refine ⟨script, unbroken, node, ?_, imports, edges, extracted, ?_⟩
  · exact List.mem_of_mem_filter (only ▸ List.mem_cons_self)
  · rw [← describes.byDefault "X" "./m" imports]
    exact List.mem_of_mem_filter (whole ▸ List.mem_cons_self)

/-- The default export of a module in the three forms. -/
example : ["import X from './m'", "import \x7b default as X \x7d from './m'",
    "import X = require('./m')"].all (fun text =>
      (extract ReachableSet.plainResolver {} ⟨"/repo/src/f.ts"⟩ text).toOption ==
        some [ofDefault ReachableSet.plainResolver {} ⟨"/repo/src/f.ts"⟩ "X" "./m" false 1]) =
      true := by
  decide +kernel

def quotedText : String := "import \x7b \"'a'\" as b \x7d from './m'"

/-- The text can be read and imports the name between the double quotes, single quotes included; but
the binding is for the name without them. -/
theorem extract_quoted :
    let parsed := parse (Language.ofPath ⟨"/repo/src/f.ts"⟩) quotedText.toList
    (Language.ofPath ⟨"/repo/src/f.ts"⟩).isScript = true ∧ parsed.broken = false ∧
      (((visited parsed).filter isWhole).flatMap specifiers).map isTypeName = [false] ∧
      (((visited parsed).filter isWhole).flatMap specifiers).map (fun part =>
        (part.part? .name).map fun word => (word.kind, word.text)) =
          [some (.string, ['"', '\'', 'a', '\'', '"'])] ∧
      ∃ edge, extract ReachableSet.plainResolver {} ⟨"/repo/src/f.ts"⟩ quotedText = .ok [edge] ∧
        edge.bindings = [.named "a" "b"] ∧ "a" ≠ "'a'" := by
  intro parsed
  refine ⟨by decide, by decide +kernel, by decide +kernel, by decide +kernel,
    ⟨⟨"/repo/src/f.ts"⟩, "./m", none, [.named "a" "b"], false, .static, 1⟩, ?_, rfl, by decide⟩
  apply ReachableSet.ok_of_toOption
  decide +kernel

end ImportEdge

end UiContract
