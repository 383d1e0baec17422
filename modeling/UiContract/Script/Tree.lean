/-!
Syntax trees of source files. A node says what it is, which part of its parent it is, on which line it
begins, and whether something below it could not be read; words and string literals keep their text.
`firstFailureLine` finds the first place that could not be read, as `first_error_line` does, and passes over
every subtree that is whole.
-/
namespace UiContract.Script

inductive Kind where
  | program
  | importStatement
  | importClause
  | namespaceImport
  | namedImports
  | importSpecifier
  | importRequireClause
  | exportStatement
  | exportClause
  | exportSpecifier
  | namespaceExport
  | call
  | arguments
  | importWord
  | identifier
  | string
  | comment
  | word
  | statement
  | expression
  | typePosition
  | failure
  | missing
deriving DecidableEq, Repr

inductive Role where
  | plain
  | name
  | renamed
  | source
  | function
  | arguments
deriving DecidableEq, Repr

structure Label where
  kind : Kind
  line : Nat
  role : Role := .plain
  text : List Char := []
  broken : Bool := false
deriving DecidableEq, Repr

inductive Tree where
  | node (label : Label) (children : List Tree)
deriving Repr

namespace Tree

def label : Tree → Label
  | node label _ => label

def children : Tree → List Tree
  | node _ children => children

def kind (tree : Tree) : Kind := tree.label.kind

def line (tree : Tree) : Nat := tree.label.line

def text (tree : Tree) : List Char := tree.label.text

def broken (tree : Tree) : Bool := tree.label.broken

def inRole (role : Role) : Tree → Tree
  | node label children => node { label with role } children

/-- Words of the grammar have no name of their own; all other nodes do. -/
def isNamed (tree : Tree) : Bool := tree.kind != .word

def part? (role : Role) (tree : Tree) : Option Tree :=
  tree.children.find? fun child => child.label.role == role

def isFailure (tree : Tree) : Bool :=
  tree.kind == .failure || tree.kind == .missing

mutual

def size : Tree → Nat
  | node _ children => sizeAmong children + 1

def sizeAmong : List Tree → Nat
  | [] => 0
  | tree :: rest => size tree + sizeAmong rest

end

theorem sizeAmong_append (front back : List Tree) :
    sizeAmong (front ++ back) = sizeAmong front + sizeAmong back := by
  induction front with
  | nil => exact (Nat.zero_add _).symm
  | cons tree front ih => rw [List.cons_append, sizeAmong, sizeAmong, ih, Nat.add_assoc]

/-- The line of the first node that could not be read, in trees on a stack. The children of a node that
is taken from the stack go on top of it, so that the first one is taken next; those of a tree that is not
marked as broken are left out. -/
def firstFailureOn : List Tree → Option Nat
  | [] => none
  | node label children :: rest =>
      if label.kind == .failure || label.kind == .missing then some label.line
      else if label.broken then firstFailureOn (children ++ rest)
      else firstFailureOn rest
termination_by stack => sizeAmong stack
decreasing_by
  all_goals simp only [sizeAmong, size, sizeAmong_append]; omega

/-- The line of the first node in reading order that could not be read. Trees that are not marked as
broken are not looked into. -/
def firstFailureLine (tree : Tree) : Option Nat := firstFailureOn [tree]

end Tree

end UiContract.Script
