import UiContract.Script.Class
import UiContract.Script.Expression
import UiContract.Script.Module

/-!
Statements and declarations. A word that begins a statement decides what is read; words that only
sometimes begin one are tried as such and then as names.
-/
namespace UiContract.Script

def declarationWords : List String := ["var", "let", "const", "function", "class", "async"]

def typedDeclarationWords : List String :=
  ["abstract", "declare", "enum", "interface", "type", "namespace", "module", "import"]

section

variable (language : Language) (parse : Grammar)

def expressionStatement : Reading Tree := do
  let inner ← parse (.sequence {})
  semicolon language .expression
  return above .statement inner.tree.line [inner.tree]

def declarator (mode : Mode) : Reading Tree := do
  let rest ← upcoming
  let line ← currentLine
  let name ← do
    if beginsWord rest then
      let name ← anyWord
      pure (name.leaf .identifier)
    else if rest.head? == some '[' || rest.head? == some '{' then
      let open_ := rest.head? == some '['
      take 1
      let items ← parse (if open_ then .arrayItems {} else .objectItems {})
      sign (if open_ then "]" else "\x7d")
      if items.shape.target then pure items.tree else fail
    else fail
  if hasTypes language then
    let rest ← upcoming
    if rest.head? == some '!' && !goesOn "!=" rest then take 1
  let types ← typeBehindColon? language parse
  let rest ← upcoming
  if rest.head? == some '=' && !goesOn "==" rest && !goesOn "=>" rest then
    take 1
    let value ← parse (.expression mode)
    return above .statement line (name :: types ++ [value.tree])
  else return above .statement line (name :: types)

def declarators (mode : Mode) (read : List Tree) : Reading Parsed := do
  let next ← declarator language parse mode
  let read := next :: read
  let line := next.line
  if ← sign? "," then parse (.declarators mode read)
  else return { tree := above .statement line read.reverse }

def variableList (line : Nat) : Reading Tree := do
  let declared ← parse (.declarators {} [])
  semicolon language .expression
  return above .statement line [declared.tree]

def ifRest (line : Nat) : Reading Tree := do
  let test ← condition language parse
  let yes ← parse .statement
  if ← theWord? "else" then
    let no ← parse .statement
    return above .statement line [test, yes.tree, no.tree]
  else return above .statement line [test, yes.tree]

def switchCases (read : List Tree) : Reading Parsed := do
  let rest ← upcoming
  let line ← currentLine
  if rest.head? == some '}' then return { tree := above .statement line read.reverse }
  else if ← theWord? "case" then
    let value ← parse (.sequence Mode.bracketed)
    sign ":"
    let body ← parse (.statements true [])
    parse (.switchCases (above .statement line [value.tree, body.tree] :: read))
  else
    let _ ← theWord "default"
    sign ":"
    let body ← parse (.statements true [])
    parse (.switchCases (body.tree :: read))

def forEachHeader : Reading (List Tree) := do
  sign "("
  let rest ← upcoming
  let word := String.ofList (wordAt rest)
  let behind ← behindWord
  let name ← do
    if (word == "var" || word == "let" || word == "const") &&
        (behind.head? == some '[' || behind.head? == some '{' ||
          (beginsWord behind && !((word == "let") &&
            ["in", "of"].contains (String.ofList (wordAt behind)) &&
            !(wordAt (afterGap (behind.drop 2)) == "of".toList)))) then
      take word.length
      let rest ← upcoming
      if beginsWord rest then
        let name ← anyWord
        let types ← typeBehindColon? language parse
        pure (above .statement name.line (name.leaf .identifier :: types))
      else
        let open_ := rest.head? == some '['
        take 1
        let items ← parse (if open_ then .arrayItems {} else .objectItems {})
        sign (if open_ then "]" else "\x7d")
        let types ← typeBehindColon? language parse
        if items.shape.target then pure (above .statement items.tree.line (items.tree :: types))
        else fail
    else
      let place ← parse (.operand { allowIn := false, inside := true })
      if place.shape.target || place.shape.bare then pure place.tree else fail
  let operator ← upcomingWord
  if operator == "in" || operator == "of" then
    take operator.length
    let values ← parse (.sequence Mode.bracketed)
    sign ")"
    return [name, values.tree]
  else fail

def forHeader : Reading (List Tree) := do
  sign "("
  let rest ← upcoming
  let word := String.ofList (wordAt rest)
  let behind ← behindWord
  let mode : Mode := { allowIn := false, inside := true }
  let declared := (word == "var" || word == "let" || word == "const") &&
    (behind.head? == some '[' || behind.head? == some '{' || beginsWord behind)
  let start ← do
    if rest.head? == some ';' then
      take 1
      pure []
    else if declared then
      take word.length
      let names ← parse (.declarators mode [])
      sign ";"
      pure [names.tree]
    else
      let first ← parse (.sequence mode)
      sign ";"
      pure [first.tree]
  let test ← do
    if ← sign? ";" then pure []
    else
      let test ← parse (.sequence Mode.bracketed)
      sign ";"
      pure [test.tree]
  if ← sign? ")" then return start ++ test
  else
    let next ← parse (.sequence Mode.bracketed)
    sign ")"
    return start ++ test ++ [next.tree]

def forRest (line : Nat) : Reading Tree := do
  let waits ← theWord? "await"
  let header ← if waits then forEachHeader language parse
    else orElse (forEachHeader language parse) (forHeader parse)
  let body ← parse .statement
  return above .statement line (header ++ [body.tree])

def caught : Reading (List Tree) := do
  let rest ← upcoming
  let place ← do
    if beginsWord rest then
      let _ ← anyWord
      pure []
    else
      let open_ := rest.head? == some '['
      sign (if open_ then "[" else "\x7b")
      let items ← parse (if open_ then .arrayItems {} else .objectItems {})
      sign (if open_ then "]" else "\x7d")
      if items.shape.target then pure [items.tree] else fail
  let types ← typeBehindColon? language parse
  sign ")"
  return place ++ types

def tryRest (line : Nat) : Reading Tree := do
  let body ← block parse
  let handler ← do
    if ← theWord? "catch" then
      let error ← do
        if ← sign? "(" then caught language parse else pure []
      let handler ← block parse
      pure (error ++ [handler])
    else pure []
  let final ← do
    if ← theWord? "finally" then
      let final ← block parse
      pure [final]
    else pure []
  return above .statement line (body :: handler ++ final)

def handedOn (line : Nat) : Reading Tree := do
  let rest ← behindToken
  if (afterGap rest).head? == some ';' || mayEnd language .other rest then
    semicolon language .other
    return above .statement line []
  else
    let inner ← parse (.sequence {})
    semicolon language .expression
    return above .statement line [inner.tree]

def jump (line : Nat) : Reading Tree := do
  let rest ← behindToken
  if !((afterGap rest).head? == some ';' || mayEnd language .other rest) then
    let _ ← anyWord
  semicolon language .other
  return above .statement line []

def functionDeclaration : Reading Tree := do
  skip
  let line ← currentLine
  let _ ← theWord? "async"
  let _ ← theWord "function"
  let _ ← sign? "*"
  let _ ← anyWord
  let before ← signature language parse
  let rest ← ahead
  if (afterGap rest).head? == some '{' then
    let body ← block parse
    return above .statement line (before ++ [body])
  else if hasTypes language then
    semicolon language .signature
    return above .statement line before
  else
    skip
    fail

def classDeclaration : Reading Tree := do
  let word ← theWord "class"
  let rest ← upcoming
  let name := String.ofList (wordAt rest)
  if name == "" || name == "extends" || (name == "implements" && hasTypes language) then fail
  else classRest language parse word.line

def enumMembers (read : List Tree) : Reading Parsed := do
  let rest ← upcoming
  let line ← currentLine
  if rest.head? == some '}' then return { tree := above .statement line read.reverse }
  else
    let (name, _) ← propertyName parse
    let value ← do
      if ← sign? "=" then
        let value ← parse (.expression Mode.bracketed)
        pure [value.tree]
      else pure []
    let read := above .statement line (name :: value) :: read
    let rest ← upcoming
    if rest.head? == some ',' then
      take 1
      parse (.enumMembers read)
    else if rest.head? == some '}' then return { tree := above .statement line read.reverse }
    else fail

def enumDeclaration : Reading Tree := do
  let word ← theWord "enum"
  let _ ← anyWord
  sign "\x7b"
  let members ← parse (.enumMembers [])
  sign "\x7d"
  return above .statement word.line members.tree.children

def interfaceDeclaration : Reading Tree := do
  let word ← theWord "interface"
  let _ ← anyWord
  let types ← typeParameters? language parse
  let bases ← do
    if ← theWord? "extends" then
      let bases ← parse (.typeList [])
      pure [bases.tree]
    else pure []
  sign "\x7b"
  let members ← parse (.typeMembers [])
  sign "\x7d"
  return above .typePosition word.line (types ++ bases ++ [members.tree])

def typeDeclaration : Reading Tree := do
  let word ← theWord "type"
  let _ ← anyWord
  let types ← typeParameters? language parse
  sign "="
  let value ← parse .type
  semicolon language .other
  return above .typePosition word.line (types ++ [value.tree])

def namespaceDeclaration : Reading Tree := do
  let word ← anyWord
  let rest ← upcoming
  if rest.head? == some '"' || rest.head? == some '\'' then
    let _ ← stringLiteral
  else dottedName 100
  let rest ← ahead
  if (afterGap rest).head? == some '{' then
    let body ← block parse
    return above .statement word.line [body]
  else return above .statement word.line []

def ambientDeclaration : Reading Tree := do
  let word ← theWord "declare"
  let next ← upcomingWord
  let behind ← behindWord
  if next == "global" && behind.head? == some '{' then
    take next.length
    let body ← block parse
    return above .statement word.line [body]
  else if next == "module" && behind.head? == some '.' then
    take next.length
    sign "."
    let _ ← anyWord
    sign ":"
    let value ← parse .type
    semicolon language .other
    return above .typePosition word.line [value.tree]
  else if declarationWords.contains next || typedDeclarationWords.contains next then
    let inner ← parse .statement
    return above .statement word.line [inner.tree]
  else fail

def declaration (word : String) : Reading Tree := do
  let behind ← behindWord
  if word == "function" || (word == "async" && wordAt behind == "function".toList) then
    functionDeclaration language parse
  else if word == "class" then classDeclaration language parse
  else if word == "var" || word == "let" ||
      (word == "const" && !(hasTypes language && wordAt behind == "enum".toList)) then
    let word ← anyWord
    variableList language parse word.line
  else if !hasTypes language then fail
  else if word == "const" then
    take word.length
    enumDeclaration parse
  else if word == "abstract" then
    take word.length
    classDeclaration language parse
  else if word == "interface" then interfaceDeclaration language parse
  else if word == "enum" then enumDeclaration parse
  else if word == "type" then typeDeclaration language parse
  else if word == "namespace" || word == "module" then namespaceDeclaration parse
  else if word == "declare" then ambientDeclaration language parse
  else fail

def decoratedClass : Reading Tree := do
  if hasTypes language then
    let _ ← theWord? "abstract"
  classDeclaration language parse

def exportDefault (line : Nat) : Reading Tree := do
  let rest ← upcoming
  let word := String.ofList (wordAt rest)
  let declared : Reading Tree := do
    if rest.head? == some '@' then
      let marks ← parse (.decorators [])
      let inner ← decoratedClass language parse
      return above .exportStatement line [marks.tree, inner]
    else
      let inner ← declaration language parse word
      return above .exportStatement line [inner]
  let value : Reading Tree := do
    let inner ← parse (.expression {})
    semicolon language .expression
    return above .exportStatement line [inner.tree]
  orElse declared value

def exportRest (line : Nat) (marks : List Tree) : Reading Tree := do
  let rest ← upcoming
  let word := String.ofList (wordAt rest)
  let behind ← behindWord
  if rest.head? == some '*' then exportAll language line
  else if rest.head? == some '{' then exportedNames language parse line marks
  else if rest.head? == some '@' then
    let before ← parse (.decorators [])
    let inner ← decoratedClass language parse
    return above .exportStatement line [before.tree, inner]
  else if word == "default" then
    take word.length
    exportDefault language parse line
  else if hasTypes language && word == "type" && behind.head? == some '{' then
    let mark ← anyWord
    exportedNames language parse line [mark.leaf .word]
  else if hasTypes language && word == "import" then
    take word.length
    let _ ← anyWord
    sign "="
    dottedName 100
    semicolon language .other
    return above .exportStatement line []
  else if hasTypes language && rest.head? == some '=' then
    take 1
    let inner ← parse (.expression {})
    semicolon language .expression
    return above .exportStatement line [inner.tree]
  else if hasTypes language && word == "as" then
    take word.length
    let _ ← theWord "namespace"
    let _ ← anyWord
    semicolon language .other
    return above .exportStatement line []
  else
    let inner ← declaration language parse word
    return above .exportStatement line [inner]

/-- A statement in braces: a block, or an expression where what follows shows that it is none. -/
def bracedStatement : Reading Tree := do
  orElse (do
    let body ← block parse
    let rest ← ahead
    match afterGap rest with
    | first :: _ =>
        if "=.,?:)*%&|^".toList.contains first then
          skip
          fail
        else return body
    | [] => return body)
    (orElse (expressionStatement language parse) (block parse))

def labeledOrExpression : Reading Tree := do
  let rest ← upcoming
  let line ← currentLine
  let behind ← behindWord
  if beginsWord rest && behind.head? == some ':' then
    let _ ← anyWord
    sign ":"
    let inner ← parse .statement
    return above .statement line [inner.tree]
  else expressionStatement language parse

def wordStatement (word : String) (line : Nat) : Reading Tree := do
  let whole ← ahead
  let after := whole.drop word.length
  let behind ← behindWord
  let breaks := mayEnd language .expression after && behind.head? != some ';'
  let first := behind.headD ' '
  if word == "import" then
    if first == '(' || first == '.' || first == '`' || first == '?' ||
        (first == '<' && hasTypes language) then expressionStatement language parse
    else
      take word.length
      importRest language parse line
  else if word == "export" then
    if breaks then labeledOrExpression language parse
    else orElse (do
      take word.length
      exportRest language parse line []) (labeledOrExpression language parse)
  else if word == "if" then
    take word.length
    ifRest language parse line
  else if word == "for" then
    take word.length
    forRest language parse line
  else if word == "while" || word == "with" then
    take word.length
    let test ← condition language parse
    let body ← parse .statement
    return above .statement line [test, body.tree]
  else if word == "do" then
    take word.length
    let body ← parse .statement
    let _ ← theWord "while"
    let test ← condition language parse
    let _ ← sign? ";"
    return above .statement line [body.tree, test]
  else if word == "switch" then
    take word.length
    let value ← condition language parse
    sign "\x7b"
    let cases ← parse (.switchCases [])
    sign "\x7d"
    return above .statement line [value, cases.tree]
  else if word == "try" then
    take word.length
    tryRest language parse line
  else if word == "return" then
    take word.length
    handedOn language parse line
  else if word == "throw" then
    take word.length
    let inner ← parse (.sequence {})
    semicolon language .expression
    return above .statement line [inner.tree]
  else if word == "break" || word == "continue" then
    take word.length
    jump language line
  else if word == "debugger" then
    take word.length
    semicolon language .other
    return above .statement line []
  else if word == "var" || word == "const" then declaration language parse word
  else if word == "let" then
    if beginsWord behind || first == '[' || first == '{' then
      orElse (declaration language parse word) (labeledOrExpression language parse)
    else labeledOrExpression language parse
  else if word == "function" || word == "class" ||
      (word == "async" && wordAt behind == "function".toList && !breaks) then
    orElse (declaration language parse word) (expressionStatement language parse)
  else if hasTypes language && (word == "interface" || word == "enum" || word == "abstract") then
    declaration language parse word
  else if hasTypes language && !breaks && (word == "type" || word == "declare") &&
      beginsWord behind then
    orElse (declaration language parse word) (labeledOrExpression language parse)
  else if hasTypes language && !breaks && (word == "namespace" || word == "module") &&
      (beginsWord behind || first == '"' || first == '\'') then
    orElse (declaration language parse word) (labeledOrExpression language parse)
  else labeledOrExpression language parse

def statement : Reading Parsed := do
  toStatement
  let rest ← ahead
  let line ← currentLine
  match rest with
  | [] => fail
  | ';' :: _ =>
      take 1
      return { tree := above .statement line [] }
  | '{' :: _ =>
      let tree ← bracedStatement language parse
      return { tree }
  | '@' :: _ =>
      let marks ← parse (.decorators [])
      if ← theWord? "export" then
        if ← theWord? "default" then
          let inner ← decoratedClass language parse
          return { tree := above .exportStatement line [marks.tree, inner] }
        else
          let inner ← decoratedClass language parse
          return { tree := above .exportStatement line [marks.tree, inner] }
      else
        let inner ← decoratedClass language parse
        return { tree := above .statement line [marks.tree, inner] }
  | _ =>
      let word := String.ofList (wordAt rest)
      if word == "" then
        let tree ← expressionStatement language parse
        return { tree }
      else
        let tree ← wordStatement language parse word line
        return { tree }

def statements (inSwitch : Bool) (read : List Tree) : Reading Parsed := do
  toStatement
  let rest ← ahead
  let line ← currentLine
  let word := String.ofList (wordAt rest)
  if rest == [] || rest.head? == some '}' ||
      (inSwitch && (word == "case" || word == "default")) then
    return { tree := above .statement line read.reverse }
  else
    let next ← parse .statement
    parse (.statements inSwitch (next.tree :: read))

end

end UiContract.Script
