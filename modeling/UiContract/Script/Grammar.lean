import UiContract.Script.Tree
import UiContract.Script.Semicolon

/-!
The parts of the grammar that refer to each other. Every part is a `Goal`, and the rules of the
other modules are readings that take the reading of all goals as an argument; `Script.Parse` ties
them together.

An expression may turn out to be a pattern only when what follows it is seen, so reading one also
tells the `Shape` of what was read: as what it can be used.
-/
namespace UiContract.Script

structure Shape where
  /-- It is an expression. -/
  expression : Bool := true
  /-- A value can be assigned to it. -/
  target : Bool := false
  /-- Its value can be changed by an operator such as `+=`. -/
  simple : Bool := false
  /-- It stands in parentheses. -/
  bare : Bool := false
  /-- It can be a parameter although nothing can be assigned to it. -/
  parameter : Bool := false
  /-- It is a target with a value of its own, such as `a = 1`. -/
  initialized : Bool := false
deriving DecidableEq, Repr

def Shape.place : Shape := { target := true, simple := true }

def Shape.inPattern (shape : Shape) : Bool := shape.target || shape.initialized

def Shape.asParameter (shape : Shape) : Bool := shape.inPattern || shape.parameter

/-- Where an expression stands: whether `in` is an operator, whether a parenthesis may begin a
function with a declared result, and whether a line end inside it means nothing. -/
structure Mode where
  allowIn : Bool := true
  typedArrow : Bool := true
  inside : Bool := false
deriving DecidableEq, Repr

def Mode.bracketed : Mode := { inside := true }

structure Parsed where
  tree : Tree
  shape : Shape := {}

/-- A list that is being read: its trees, last first, and what the list can be used as. -/
structure Items where
  read : List Tree := []
  count : Nat := 0
  expression : Bool := true
  pattern : Bool := true
  typed : Bool := false

inductive Goal where
  | statement
  | statements (inSwitch : Bool) (read : List Tree)
  | switchCases (read : List Tree)
  | declarators (mode : Mode) (read : List Tree)
  | importNames (read : List Tree)
  | exportNames (read : List Tree)
  | enumMembers (read : List Tree)
  | decorators (read : List Tree)
  | classMembers (read : List Tree)
  | superclasses (read : List Tree)
  | sequence (mode : Mode)
  | expression (mode : Mode)
  | cover (mode : Mode)
  | operand (mode : Mode)
  | chain (mode : Mode) (head : Parsed)
  | operators (mode : Mode) (first : Parsed)
  | parenthesisItems (items : Items)
  | arrayItems (items : Items)
  | objectItems (items : Items)
  | argumentItems (read : List Tree)
  | templateParts (read : List Tree)
  | markup
  | markupChildren (read : List Tree)
  | markupAttributes (read : List Tree)
  | type
  | typeSuffix (named : Bool) (head : Tree)
  | typeOperators (head : Tree)
  | typeList (read : List Tree)
  | typeParameters (read : List Tree)
  | typeMembers (read : List Tree)
  | tupleMembers (read : List Tree)
  | typeTemplate (read : List Tree)
  | typeQuery (head : Tree)

abbrev Grammar := Goal → Reading Parsed

def leaf (kind : Kind) (line : Nat) (text : List Char) : Tree :=
  .node { kind, line, text } []

def above (kind : Kind) (line : Nat) (children : List Tree) : Tree :=
  .node { kind, line } children

def Word.leaf (word : Word) (kind : Kind) : Tree :=
  Script.leaf kind word.line word.text

def Items.close (items : Items) (kind : Kind) (line : Nat) : Parsed :=
  { tree := above kind line items.read.reverse,
    shape := { expression := items.expression, target := items.pattern } }

def hasTypes (language : Language) : Bool :=
  language == .typeScript || language == .tsx

def beginsProperty (rest : List Char) : Bool :=
  match rest with
  | [] => false
  | first :: _ =>
      beginsWord rest || first.isDigit || first == '"' || first == '\'' || first == '[' ||
        first == '#'

/-- Words in front of a property that say more about it, as long as a property follows. The number
bounds how many there are. -/
def propertyModifiers (words : List String) : Nat → Reading (List String)
  | 0 => return []
  | count + 1 => do
      let word ← upcomingWord
      let behind ← behindWord
      if words.contains word && (beginsProperty behind || behind.head? == some '*') then
        take word.length
        let more ← propertyModifiers words count
        return word :: more
      else return []

section

variable (language : Language) (parse : Grammar)

def block : Reading Tree := do
  skip
  let line ← currentLine
  sign "\x7b"
  let body ← parse (.statements false [])
  sign "\x7d"
  return above .statement line body.tree.children

def condition : Reading Tree := do
  sign "("
  let inner ← parse (.sequence Mode.bracketed)
  if ← signIf (hasTypes language) ":" then
    let declared ← parse .type
    sign ")"
    return above .expression inner.tree.line [inner.tree, declared.tree]
  else
    sign ")"
    return inner.tree

def typeBehindColon? : Reading (List Tree) := do
  if ← signIf (hasTypes language) ":" then
    let declared ← parse .type
    return [declared.tree]
  else return []

def resultType : Reading Tree := do
  let word ← upcomingWord
  let behind ← behindWord
  let line ← currentLine
  if word == "asserts" && beginsWord behind && wordAt behind != "is".toList then
    take word.length
    let _ ← anyWord
    if ← theWord? "is" then
      let claimed ← parse .type
      return above .typePosition line [claimed.tree]
    else return above .typePosition line []
  else
    let first ← parse .type
    if ← theWord? "is" then
      let claimed ← parse .type
      return above .typePosition line [first.tree, claimed.tree]
    else return first.tree

def typeParameters? : Reading (List Tree) := do
  let rest ← upcoming
  if hasTypes language && rest.head? == some '<' then
    take 1
    let parameters ← parse (.typeParameters [])
    sign ">"
    return [parameters.tree]
  else return []

def parameters : Reading Tree := do
  sign "("
  let items ← parse (.parenthesisItems {})
  sign ")"
  if items.shape.target then return items.tree else fail

def signature : Reading (List Tree) := do
  let types ← typeParameters? language parse
  let values ← parameters parse
  if ← signIf (hasTypes language) ":" then
    let result ← resultType parse
    return types ++ [values, result]
  else return types ++ [values]

def propertyName : Reading (Tree × Bool) := do
  let rest ← upcoming
  let line ← currentLine
  match rest with
  | [] => fail
  | first :: behind =>
      if first == '"' || first == '\'' then
        let text ← stringLiteral
        return (text.leaf .string, false)
      else if first == '[' then
        take 1
        let inner ← parse (.expression Mode.bracketed)
        sign "]"
        return (inner.tree, false)
      else if first == '#' then
        take 1
        let name := wordAt behind
        if name == [] then fail
        else
          take name.length
          return (leaf .expression line name, false)
      else if beginsWord rest then
        let word ← anyWord
        return (word.leaf .identifier, true)
      else
        let length := numberLength rest
        if length == 0 then fail
        else
          take length
          return (leaf .expression line (rest.take length), false)

end

end UiContract.Script
