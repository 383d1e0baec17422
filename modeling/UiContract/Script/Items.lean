import UiContract.Script.Grammar

/-!
What stands between brackets: arguments, the members of arrays and objects, parameters and templates.
Each list says whether it can be an expression and whether it can be a pattern; a list in parentheses
says whether it can be the parameters of a function.
-/
namespace UiContract.Script

def objectModifiers (language : Language) : List String :=
  ["get", "set", "async", "static"] ++
    (if hasTypes language then ["public", "private", "protected", "override", "readonly"] else [])

def parameterModifiers : List String :=
  ["public", "private", "protected", "override", "readonly"]

def Items.add (items : Items) (tree : Tree) (expression pattern : Bool) : Items :=
  { items with read := tree :: items.read, count := items.count + 1,
               expression := items.expression && expression,
               pattern := items.pattern && pattern }

section

variable (language : Language) (parse : Grammar)

/-- The arguments of a call up to the closing parenthesis. Comments between them are kept. -/
def argumentItems (read : List Tree) : Reading Parsed := do
  let comments ← skipComments
  let read := (comments.map fun line => leaf .comment line []).reverse ++ read
  let rest ← ahead
  let line ← currentLine
  match rest with
  | ')' :: _ => return { tree := above .arguments line read.reverse }
  | ',' :: _ =>
      take 1
      parse (.argumentItems read)
  | _ =>
      let item ← do
        if goesOn "..." rest then
          take 3
          let inner ← parse (.expression Mode.bracketed)
          pure (above .expression line [inner.tree])
        else
          let inner ← parse (.expression Mode.bracketed)
          pure inner.tree
      let comments ← skipComments
      let read := (comments.map fun line => leaf .comment line []).reverse ++ (item :: read)
      let rest ← ahead
      match rest with
      | ')' :: _ => return { tree := above .arguments line read.reverse }
      | ',' :: _ =>
          take 1
          parse (.argumentItems read)
      | _ => fail

def afterItem (closing : Char) (next : Reading Parsed) : Reading Parsed := do
  let rest ← upcoming
  if rest.head? == some ',' then
    take 1
    next
  else if rest.head? == some closing then next
  else fail

def arrayItems (items : Items) : Reading Parsed := do
  let rest ← upcoming
  let line ← currentLine
  match rest with
  | ']' :: _ => return items.close .expression line
  | ',' :: _ =>
      take 1
      parse (.arrayItems items)
  | _ =>
      if goesOn "..." rest then
        take 3
        let inner ← parse (.cover Mode.bracketed)
        let items := items.add (above .expression line [inner.tree]) inner.shape.expression
          inner.shape.target
        afterItem ']' (parse (.arrayItems items))
      else
        let inner ← parse (.cover Mode.bracketed)
        let items := items.add inner.tree inner.shape.expression inner.shape.inPattern
        afterItem ']' (parse (.arrayItems items))

def objectMethod (line : Nat) (front : List Tree) : Reading Tree := do
  if hasTypes language then
    let _ ← sign? "?"
  let before ← signature language parse
  let body ← block parse
  return above .expression line (front ++ before ++ [body])

def objectItem : Reading (Tree × Bool × Bool) := do
  let rest ← upcoming
  let line ← currentLine
  if goesOn "..." rest then
    take 3
    let inner ← parse (.cover Mode.bracketed)
    return (above .expression line [inner.tree], inner.shape.expression, inner.shape.target)
  else
    let marks ← do
      if rest.head? == some '@' then
        let marks ← parse (.decorators [])
        pure [marks.tree]
      else pure []
    let modifiers ← propertyModifiers (objectModifiers language) 8
    let generator ← sign? "*"
    let (name, plain) ← propertyName parse
    let front := marks ++ [name]
    let rest ← upcoming
    let next := rest.headD ' '
    let method : Reading (Tree × Bool × Bool) := do
      let tree ← objectMethod language parse line front
      return (tree, true, false)
    if next == '(' || (hasTypes language && (next == '<' || next == '?')) then method
    else if generator || !modifiers.isEmpty then fail
    else if next == ':' then
      take 1
      let value ← parse (.cover Mode.bracketed)
      return (above .expression line (front ++ [value.tree]), value.shape.expression,
        value.shape.inPattern)
    else if !plain then fail
    else if next == '=' then
      take 1
      let value ← parse (.expression Mode.bracketed)
      return (above .expression line (front ++ [value.tree]), false, true)
    else return (above .expression line front, true, true)

def objectItems (items : Items) : Reading Parsed := do
  let rest ← upcoming
  let line ← currentLine
  match rest with
  | '}' :: _ => return items.close .expression line
  | ',' :: _ =>
      take 1
      parse (.objectItems items)
  | _ =>
      let (tree, asExpression, asPattern) ← objectItem language parse
      afterItem '}' (parse (.objectItems (items.add tree asExpression asPattern)))

def closeParenthesis (items : Items) (line : Nat) (trailing : Bool) : Parsed :=
  let expression := items.expression && 0 < items.count && !trailing &&
    !(items.typed && 1 < items.count)
  ({ items with expression }).close .expression line

def parameterWords : Nat → Reading Bool
  | 0 => return false
  | count + 1 => do
      let word ← upcomingWord
      let behind ← behindWord
      let next := String.ofList (wordAt behind)
      if parameterModifiers.contains word && (behind.head? == some '{' || (next != "" &&
          !(["as", "satisfies", "in", "instanceof"].contains next))) then
        take word.length
        let _ ← parameterWords count
        return true
      else return false

/-- One item in parentheses: an expression, a parameter, or what can still be both. -/
def parenthesisItem (items : Items) : Reading Items := do
  let rest ← upcoming
  let line ← currentLine
  if goesOn "..." rest then
    take 3
    let inner ← parse (.operand Mode.bracketed)
    let types ← typeBehindColon? language parse
    return items.add (above .expression line (inner.tree :: types)) false inner.shape.target
  else
    let marks ← do
      if hasTypes language && rest.head? == some '@' then
        let marks ← parse (.decorators [])
        pure [marks.tree]
      else pure []
    let marked ← if hasTypes language then parameterWords 8 else pure false
    let inner ← parse (.cover Mode.bracketed)
    let asParameter := inner.shape.asParameter
    let unmarked := marks.isEmpty && !marked
    if !hasTypes language || inner.shape.initialized then
      let tree := if marks.isEmpty then inner.tree
        else above .expression line (marks ++ [inner.tree])
      return items.add tree (inner.shape.expression && unmarked) asParameter
    else
      let rest ← upcoming
      let left ← do
        if rest.head? == some '?' && asParameter then
          take 1
          pure true
        else pure false
      let types ← typeBehindColon? language parse
      let value ← do
        if ← signIf (!types.isEmpty && asParameter) "=" then
          let value ← parse (.expression Mode.bracketed)
          pure [value.tree]
        else pure []
      let plain := !left && value.isEmpty && unmarked
      let items := { items with typed := items.typed || !types.isEmpty }
      let tree := if marks.isEmpty && types.isEmpty then inner.tree
        else above .expression line (marks ++ inner.tree :: types ++ value)
      return items.add tree (inner.shape.expression && plain) asParameter

def parenthesisItems (items : Items) : Reading Parsed := do
  let rest ← upcoming
  let line ← currentLine
  match rest with
  | ')' :: _ => return closeParenthesis items line (0 < items.count)
  | _ =>
      let items ← parenthesisItem language parse items
      let rest ← upcoming
      match rest with
      | ')' :: _ => return closeParenthesis items line false
      | ',' :: _ =>
          take 1
          parse (.parenthesisItems items)
      | _ => fail

/-- How a template goes on: it ends, an expression begins, or it breaks off, each after a number of
characters. -/
inductive TemplateEnd where
  | closed (length : Nat)
  | opened (length : Nat)
  | broken (length : Nat)

/-- Reads the text of a template. The first number counts characters of an escape that are passed
over, the second the characters read. -/
def templateEnd : Nat → Nat → List Char → TemplateEnd
  | _, count, [] => .broken count
  | skipped + 1, count, _ :: rest => templateEnd skipped (count + 1) rest
  | 0, count, character :: rest =>
      if character == '`' then .closed (count + 1)
      else if character == '$' && rest.head? == some '{' then .opened (count + 2)
      else if character == '\\' then match stringEscape? rest with
        | some length => templateEnd length (count + 1) rest
        | none => .broken count
      else templateEnd 0 (count + 1) rest

def templateParts (read : List Tree) : Reading Parsed := do
  let rest ← ahead
  let line ← currentLine
  match templateEnd 0 0 rest with
  | .closed length =>
      take length
      return { tree := above .expression line read.reverse }
  | .opened length =>
      take length
      let inner ← parse (.sequence Mode.bracketed)
      sign "\x7d"
      parse (.templateParts (above .expression inner.tree.line [inner.tree] :: read))
  | .broken length =>
      take length
      fail

end

end UiContract.Script
