import UiContract.Import.Edge
import UiContract.Script.Tree

/-!
The declarations of a syntax tree that name another module, as `collect_imports` finds them: imports
(`import_statement`), exports from another module (`reexport_statement`), and calls of `import` with a string
literal (`dynamic_import`). They are given in the order of the text, as they are written, before their
specifiers lead anywhere.
-/
namespace UiContract

open Script

inductive WrittenBinding where
  | defaultExport (localName : String)
  | named (imported localName : String)
  | wholeModule (localName : String)
deriving DecidableEq, Repr

structure ImportDeclaration where
  specifier : String
  bindings : List WrittenBinding
  typeOnly : Bool
  kind : ImportKind
  line : Nat
deriving DecidableEq, Repr

namespace ImportDeclaration

def isQuote (character : Char) : Bool :=
  character == '\'' || character == '"' || character == '`'

def unquote (literal : List Char) : String :=
  String.ofList ((literal.dropWhile isQuote).reverse.dropWhile isQuote).reverse

def exportedName (tree : Tree) : String :=
  if tree.kind == .string then unquote tree.text else String.ofList tree.text

def isMarked (tree : Tree) : Bool :=
  tree.children.any fun child =>
    !child.isNamed && (child.text == "type".toList || child.text == "typeof".toList)

def firstName? (tree : Tree) : Option String :=
  (tree.children.find? fun child => child.kind == .identifier).map
    fun child => String.ofList child.text

def source? (tree : Tree) : Option String :=
  (tree.part? .source).map fun source => unquote source.text

def importedBinding? (specifier : Tree) : Option WrittenBinding := do
  let name ← specifier.part? .name
  let imported := exportedName name
  let localName := match specifier.part? .renamed with
    | some renamed => String.ofList renamed.text
    | none => imported
  if imported == "default" then some (.defaultExport localName)
  else some (.named imported localName)

def exportedBinding? (specifier : Tree) : Option WrittenBinding := do
  let name ← specifier.part? .name
  let imported := exportedName name
  some (.named imported (((specifier.part? .renamed).map exportedName).getD imported))

def unmarked (kind : Kind) (names : Tree) : List Tree :=
  names.children.filter fun name => name.kind == kind && !isMarked name

def hasMarked (kind : Kind) (names : Tree) : Bool :=
  names.children.any fun name => name.kind == kind && isMarked name

def importBindings (part : Tree) : List WrittenBinding :=
  match part.kind with
  | .identifier => [.defaultExport (String.ofList part.text)]
  | .namespaceImport => (firstName? part).toList.map .wholeModule
  | .namedImports => (unmarked .importSpecifier part).filterMap importedBinding?
  | _ => []

def exportBindings (part : Tree) : List WrittenBinding :=
  match part.kind with
  | .exportClause => (unmarked .exportSpecifier part).filterMap exportedBinding?
  | .namespaceExport =>
      (part.children.filter Tree.isNamed).getLast?.toList.map
        fun name => .wholeModule (exportedName name)
  | _ => []

def ofImport? (tree : Tree) : Option ImportDeclaration :=
  let typeOnly := isMarked tree
  match tree.children.find? fun child => child.kind == .importRequireClause with
  | some clause => do
      let specifier ← source? clause
      let localName ← firstName? clause
      some { specifier, bindings := [.defaultExport localName], typeOnly, kind := .static,
             line := tree.line }
  | none => do
      let specifier ← source? tree
      match tree.children.find? fun child => child.kind == .importClause with
      | none => some { specifier, bindings := [], typeOnly, kind := .sideEffect, line := tree.line }
      | some clause =>
          let parts := clause.children.filter Tree.isNamed
          let bindings := parts.flatMap importBindings
          let erased := bindings.isEmpty &&
            parts.any fun part => part.kind == .namedImports && hasMarked .importSpecifier part
          some { specifier, bindings, typeOnly := typeOnly || erased, kind := .static,
                 line := tree.line }

def ofExport? (tree : Tree) : Option ImportDeclaration := do
  let specifier ← source? tree
  let parts := tree.children.filter Tree.isNamed
  let bindings := parts.flatMap exportBindings
  let erased := bindings.isEmpty &&
    parts.any fun part => part.kind == .exportClause && hasMarked .exportSpecifier part
  some { specifier, bindings, typeOnly := isMarked tree || erased, kind := .reExport,
         line := tree.line }

/-- The declaration of a call of `import` whose first argument is a string literal. A comment in
front of the literal counts as the first argument. -/
def ofCall? (tree : Tree) : Option ImportDeclaration := do
  let function ← tree.part? .function
  let arguments ← tree.part? .arguments
  let first ← arguments.children.find? Tree.isNamed
  if function.kind == .importWord && first.kind == .string then
    some { specifier := unquote first.text, bindings := [], typeOnly := false, kind := .dynamic,
           line := tree.line }
  else none

/-- The declarations in trees on a stack, a node before its parts. The children of a node that is taken
from the stack go on top of it, so that the first one is taken next; those of an import and of an export
from another module are left out. -/
def collectOn : List Tree → List ImportDeclaration
  | [] => []
  | .node label children :: rest =>
      let tree := Script.Tree.node label children
      if label.kind == .importStatement then (ofImport? tree).toList ++ collectOn rest
      else if label.kind == .exportStatement && (tree.part? .source).isSome then
        (ofExport? tree).toList ++ collectOn rest
      else if label.kind == .call then (ofCall? tree).toList ++ collectOn (children ++ rest)
      else collectOn (children ++ rest)
termination_by stack => Tree.sizeAmong stack
decreasing_by
  all_goals simp only [Tree.sizeAmong, Tree.size, Tree.sizeAmong_append]; omega

def collect (tree : Tree) : List ImportDeclaration := collectOn [tree]

def inOrder (tree : Tree) : List ImportDeclaration :=
  (collect tree).mergeSort fun first second => first.line ≤ second.line

end ImportDeclaration

end UiContract
