import UiContract.Script.Items
import UiContract.Script.Markup
import UiContract.Script.Statement
import UiContract.Script.Types

/-!
Source texts as syntax trees. The rules of the grammar are tied together by a bound on how deep they may call
each other, which a text of some length cannot reach. The reading stands in for the generated `parser`: what
is proved of trees does not depend on it, what is proved of texts does. A text that cannot be read gives a
tree with a node for the place that is taken as the fault.
-/
namespace UiContract.Script

def rule (language : Language) (parse : Grammar) : Grammar
  | .statement => statement language parse
  | .statements inSwitch read => statements parse inSwitch read
  | .switchCases read => switchCases parse read
  | .declarators mode read => declarators language parse mode read
  | .importNames read => importNames language parse read
  | .exportNames read => exportNames language parse read
  | .enumMembers read => enumMembers parse read
  | .decorators read => decorators language parse read
  | .classMembers read => classMembers language parse read
  | .superclasses read => superclasses language parse read
  | .sequence mode => sequence parse mode
  | .expression mode => expression parse mode
  | .cover mode => cover language parse mode
  | .operand mode => operand language parse mode
  | .chain mode head => chain language parse mode head
  | .operators mode first => operators language parse mode first
  | .parenthesisItems items => parenthesisItems language parse items
  | .arrayItems items => arrayItems parse items
  | .objectItems items => objectItems language parse items
  | .argumentItems read => argumentItems parse read
  | .templateParts read => templateParts parse read
  | .markup => markup language parse
  | .markupChildren read => markupChildren parse read
  | .markupAttributes read => markupAttributes parse read
  | .type => typeGoal parse
  | .typeSuffix fresh head => typeSuffix language parse fresh head
  | .typeOperators head => typeOperators parse head
  | .typeList read => typeList parse read
  | .typeParameters read => typeParameterList parse read
  | .typeMembers read => typeMembers language parse read
  | .tupleMembers read => tupleMembers parse read
  | .typeTemplate read => typeTemplateParts parse read
  | .typeQuery head => typeQuery parse head

def grammar (language : Language) : Nat → Grammar
  | 0 => fun _ => fail
  | depth + 1 => rule language (grammar language depth)

/-- A bound that no text of this length reaches: between two characters only some rules follow each
other. -/
def depthBound (length : Nat) : Nat := 64 * (length + 16)

/-- Why a text is no program: the line of the statement that could not be read, its place, and the
furthest place that a reading came to. -/
structure Fault where
  line : Nat
  position : Nat
  reached : Nat
deriving Repr

/-- Reads statements up to the end of the text. Every statement takes a character at least, so the
length of the text bounds their number. -/
def readStatements (grammar : Grammar) : Nat → List Tree → Cursor → Except Fault (List Tree)
  | 0, read, _ => .ok read.reverse
  | count + 1, read, cursor =>
      let start := statementStart (cursor.rest.length + 1) cursor
      if start.rest == [] then .ok read.reverse
      else match grammar .statement start with
        | .error failure => .error ⟨start.line, start.position, failure.reached⟩
        | .ok (next, after) => readStatements grammar count (next.tree :: read) after

def startOf (text : List Char) : Cursor :=
  if goesOn "#!" text then
    let cursor : Cursor := { rest := text }
    cursor.advance (countWhile (fun character => character != '\n') text)
  else { rest := text }

def readText (language : Language) (text : List Char) : Except Fault (List Tree) :=
  readStatements (grammar language (depthBound text.length)) (text.length + 1) [] (startOf text)

def lineAt (text : List Char) (position : Nat) : Nat :=
  1 + (text.take position).count '\n'

/-- Reads the statements of a text. No token, comment or space can hold the character zero. -/
def readProgram (language : Language) (text : List Char) : Except Fault (List Tree) :=
  let before := text.takeWhile (· != nul)
  match readText language before with
  | .error fault => .error fault
  | .ok statements =>
      if nul ∈ text then .error ⟨lineAt text before.length, before.length, before.length⟩
      else .ok statements

theorem takeWhile_nul {text : List Char} (none : nul ∉ text) : text.takeWhile (· != nul) = text := by
  induction text with
  | nil => rfl
  | cons first rest ih =>
      rw [List.mem_cons, not_or] at none
      have other : (first != nul) = true := bne_iff_ne.mpr (Ne.symm none.1)
      rw [List.takeWhile_cons, if_pos other, ih none.2]

theorem readProgram_ok_iff (language : Language) (text : List Char) (statements : List Tree) :
    readProgram language text = .ok statements ↔
      nul ∉ text ∧ readText language text = .ok statements := by
  unfold readProgram
  dsimp only
  by_cases member : nul ∈ text
  · cases readText language (text.takeWhile (· != nul)) <;> simp [member]
  · rw [takeWhile_nul member]
    cases readText language text <;> simp [member]

def getsPast (language : Language) (changed : List Char) (fault : Fault) (line : Nat) : Bool :=
  match readProgram language changed with
  | .ok _ => true
  | .error other => fault.position < other.position || line < lineAt changed other.reached

def tokenLength (rest : List Char) : Nat :=
  max 1 (max (wordAt rest).length (numberLength rest))

-- Recovery from an error weighs changes of the text by costs that the grammar does not settle. What
-- follows is a guess at its outcome: a name that is missing inside a statement, else a token too much,
-- else the whole statement. The guess decides a number in a message; that there is a fault does not rest on it.
def faultLine (language : Language) (text : List Char) (fault : Fault) : Nat :=
  let before := text.take fault.reached
  let rest := text.drop fault.reached
  let line := lineAt text fault.reached
  if fault.reached ≤ fault.position || rest.all isSpace || rest.head?.any isSpace then fault.line
  else if getsPast language (before ++ " x ".toList ++ rest) fault line then
    1 + (before.reverse.dropWhile isSpace).count '\n'
  else if getsPast language (before ++ rest.drop (tokenLength rest)) fault line then line
  else fault.line

def parse (language : Language) (text : List Char) : Tree :=
  match readProgram language text with
  | .ok statements => above .program 1 statements
  | .error fault =>
      .node { kind := .program, line := 1, broken := true }
        [.node { kind := .failure, line := faultLine language text fault, broken := true } []]

end UiContract.Script
