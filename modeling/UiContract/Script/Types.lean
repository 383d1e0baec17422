import UiContract.Script.Grammar

/-!
Types. A type is an operand with brackets behind it, and operators between such operands; only the
imports that a type mentions are looked at later, so every part of a type is a node of one kind.
-/
namespace UiContract.Script

def typeNode (line : Nat) (parts : List Tree) : Tree :=
  above .typePosition line parts

def memberModifiers : List String :=
  ["public", "private", "protected", "static", "override", "readonly", "async", "get", "set"]

section

variable (language : Language) (parse : Grammar)

def typeGoal : Reading Parsed := do
  skip
  let line ← currentLine
  let rest ← upcoming
  if rest.head? == some '|' || rest.head? == some '&' then
    take 1
    parse .type
  else
    let first ← parse (.typeOperators (typeNode line []))
    if (← upcomingWord) == "extends" then
      orElse (do
        let _ ← theWord "extends"
        let bound ← parse (.typeOperators (typeNode line []))
        sign "?"
        let yes ← parse .type
        sign ":"
        let no ← parse .type
        return { tree := typeNode line [first.tree, bound.tree, yes.tree, no.tree] })
        (return first)
    else return first

def typeTemplateParts (read : List Tree) : Reading Parsed := do
  let rest ← ahead
  let line ← currentLine
  let length := countWhile (fun character => character != '`' && character != '$') rest
  take length
  let rest ← ahead
  match rest with
  | '`' :: _ =>
      take 1
      return { tree := typeNode line read.reverse }
  | '$' :: '{' :: _ =>
      take 2
      let inner ← parse .type
      sign "\x7d"
      parse (.typeTemplate (inner.tree :: read))
  | '$' :: _ =>
      take 1
      parse (.typeTemplate read)
  | _ => fail

def namedType (line : Nat) (arguments : Bool) : Nat → Reading Tree
  | 0 => return typeNode line []
  | count + 1 => do
      let rest ← upcoming
      if rest.head? == some '.' && !goesOn "..." rest then
        take 1
        let _ ← anyWord
        namedType line arguments count
      else if arguments && rest.head? == some '<' then
        take 1
        let given ← parse (.typeList [])
        sign ">"
        return typeNode line [given.tree]
      else return typeNode line []

def importType (word : Word) : Reading Tree := do
  skip
  let line ← currentLine
  let rest ← upcoming
  if rest.head? == some '.' then
    let behind ← namedType parse word.line false 100
    return typeNode word.line [word.leaf .importWord, behind]
  else
    sign "("
    let items ← parse (.argumentItems [])
    sign ")"
    let given := above .arguments line items.tree.children
    let made := above .call word.line
      [(word.leaf .importWord).inRole .function, given.inRole .arguments]
    let behind ← namedType parse word.line false 100
    return typeNode word.line [made, behind]

def typeQuery (head : Tree) : Reading Parsed := do
  let rest ← upcoming
  match rest with
  | '.' :: next :: _ =>
      if next == '.' then return { tree := head }
      else
        take 1
        let _ ← sign? "#"
        let _ ← anyWord
        parse (.typeQuery head)
  | '?' :: '.' :: _ =>
      take 2
      let _ ← anyWord
      parse (.typeQuery head)
  | '(' :: _ =>
      skip
      let line ← currentLine
      take 1
      let items ← parse (.argumentItems [])
      sign ")"
      let given := above .arguments line items.tree.children
      parse (.typeQuery (above .call head.line [head.inRole .function, given.inRole .arguments]))
  | '<' :: _ =>
      take 1
      let given ← parse (.typeList [])
      sign ">"
      return { tree := typeNode head.line [head, given.tree] }
  | '[' :: next :: _ =>
      if next == '"' || next == '\'' || next.isDigit then
        take 1
        let _ ← propertyName parse
        sign "]"
        parse (.typeQuery head)
      else return { tree := head }
  | _ => return { tree := head }

def functionType (line : Nat) : Reading Tree := do
  let types ← typeParameters? language parse
  let values ← parameters parse
  sign "=>"
  let result ← resultType parse
  return typeNode line (types ++ [values, result])

def wordType : Reading Parsed := do
  let word ← anyWord
  let text := String.ofList word.text
  let one (goal : Goal) : Reading Parsed := do
    let inner ← parse goal
    return { tree := typeNode word.line [inner.tree] }
  if text == "typeof" then
    let name ← anyWord
    let kind := if name.text == "import".toList then Kind.importWord else Kind.identifier
    one (.typeQuery (name.leaf kind))
  else if text == "keyof" || text == "readonly" then
    one (.typeSuffix true (typeNode word.line []))
  else if text == "unique" then
    let behind ← upcomingWord
    if behind == "symbol" then take behind.length
    return { tree := typeNode word.line [] }
  else if text == "infer" then
    let _ ← anyWord
    let bound ← optional (do
      let _ ← theWord "extends"
      let bound ← parse (.typeOperators (typeNode word.line []))
      let rest ← upcoming
      if rest.head? == some '?' then fail else return bound.tree)
    return { tree := typeNode word.line bound.toList }
  else if text == "new" then
    let tree ← functionType language parse word.line
    return { tree }
  else if text == "abstract" && (← upcomingWord) == "new" then
    take 3
    let tree ← functionType language parse word.line
    return { tree }
  else if text == "import" then
    let tree ← importType parse word
    return { tree }
  else
    let tree ← namedType parse word.line true 100
    return { tree }

def typeBeginning : Reading Parsed := do
  let rest ← upcoming
  let line ← currentLine
  match rest with
  | [] => fail
  | first :: behind =>
      if first == '(' then
        orElse (do
          let tree ← functionType language parse line
          return { tree }) (do
          take 1
          let inner ← parse .type
          sign ")"
          return { tree := typeNode line [inner.tree] })
      else if first == '<' then
        let tree ← functionType language parse line
        return { tree }
      else if first == '{' then
        take 1
        let exact := behind.head? == some '|'
        if exact then take 1
        let members ← parse (.typeMembers [])
        if exact then sign "|"
        sign "\x7d"
        return { tree := typeNode line [members.tree] }
      else if first == '[' then
        take 1
        let members ← parse (.tupleMembers [])
        sign "]"
        return { tree := typeNode line [members.tree] }
      else if first == '"' || first == '\'' then
        let _ ← stringLiteral
        return { tree := typeNode line [] }
      else if first == '`' then
        take 1
        parse (.typeTemplate [])
      else if first == '?' then
        take 1
        let inner ← parse (.typeSuffix true (typeNode line []))
        return { tree := typeNode line [inner.tree] }
      else if first == '*' then
        take 1
        return { tree := typeNode line [] }
      else if first == '-' || first == '+' then
        take 1
        let length := numberLength (← upcoming)
        if length == 0 then fail
        else
          take length
          return { tree := typeNode line [] }
      else if beginsWord rest then wordType language parse
      else
        let length := numberLength rest
        if length == 0 then fail
        else
          take length
          return { tree := typeNode line [] }

/-- A type with brackets behind it. Where nothing has been read yet the beginning comes first.
The type of an import takes no brackets. -/
def typeSuffix (fresh : Bool) (head : Tree) : Reading Parsed := do
  if fresh then
    let word ← upcomingWord
    let first ← typeBeginning language parse
    if word == "import" then return first else parse (.typeSuffix false first.tree)
  else
    let crossed ← crossesLine
    let rest ← upcoming
    if rest.head? == some '[' && !crossed then
      take 1
      if ← sign? "]" then parse (.typeSuffix false (typeNode head.line [head]))
      else
        let index ← parse .type
        sign "]"
        parse (.typeSuffix false (typeNode head.line [head, index.tree]))
    else return { tree := head }

def typeOperators (head : Tree) : Reading Parsed := do
  let rest ← upcoming
  let line ← currentLine
  if rest.head? == some '|' || rest.head? == some '&' then take 1
  let first ← parse (.typeSuffix true (typeNode line []))
  let parts := head.children ++ [first.tree]
  let rest ← upcoming
  if (rest.head? == some '|' || rest.head? == some '&') && !goesOn "||" rest && !goesOn "&&" rest &&
      !goesOn "|\x7d" rest then
    take 1
    parse (.typeOperators (typeNode line parts))
  else return { tree := typeNode line parts }

def typeList (read : List Tree) : Reading Parsed := do
  let line ← currentLine
  let first ← parse .type
  let read := first.tree :: read
  if ← sign? "," then
    let rest ← upcoming
    if rest.head? == some '>' then return { tree := typeNode line read.reverse }
    else parse (.typeList read)
  else return { tree := typeNode line read.reverse }

def typeParameterList (read : List Tree) : Reading Parsed := do
  skip
  let line ← currentLine
  if (← upcomingWord) == "const" && beginsWord (← behindWord) then take 5
  let _ ← anyWord
  let extends_ ← theWord? "extends"
  let colon ← signIf (!extends_) ":"
  let bound ← do
    if extends_ || colon then
      let bound ← parse .type
      pure [bound.tree]
    else pure []
  let value ← do
    if ← sign? "=" then
      let value ← parse .type
      pure [value.tree]
    else pure []
  let read := typeNode line (bound ++ value) :: read
  if ← sign? "," then
    let rest ← upcoming
    if rest.head? == some '>' then return { tree := typeNode line read.reverse }
    else parse (.typeParameters read)
  else return { tree := typeNode line read.reverse }

def indexSignature : Reading Tree := do
  let line ← currentLine
  let rest ← upcoming
  if rest.head? == some '-' || rest.head? == some '+' then take 1
  let _ ← theWord? "readonly"
  sign "["
  let _ ← anyWord
  let inner ← do
    if ← sign? ":" then
      let key ← parse .type
      pure [key.tree]
    else
      let _ ← theWord "in"
      let keys ← parse .type
      if ← theWord? "as" then
        let renamed ← parse .type
        pure [keys.tree, renamed.tree]
      else pure [keys.tree]
  sign "]"
  let rest ← upcoming
  if rest.head? == some '-' || rest.head? == some '+' then
    take 1
    sign "?"
  else
    let _ ← sign? "?"
  if ← sign? ":" then
    let value ← parse .type
    return typeNode line (inner ++ [value.tree])
  else fail

def typeMember : Reading Tree := do
  let rest ← upcoming
  let line ← currentLine
  let plain : Reading Tree := do
    if rest.head? == some '(' || rest.head? == some '<' then
      let parts ← signature language parse
      return typeNode line parts
    else
      let _ ← propertyModifiers memberModifiers 8
      let _ ← sign? "*"
      let (name, _) ← propertyName parse
      let _ ← sign? "?"
      let rest ← upcoming
      if rest.head? == some '(' || rest.head? == some '<' then
        let parts ← signature language parse
        return typeNode line (name :: parts)
      else
        let types ← typeBehindColon? language parse
        return typeNode line (name :: types)
  let word := String.ofList (wordAt rest)
  let behind ← behindWord
  let opens := behind.head? == some '(' || behind.head? == some '<'
  if word == "new" && opens then
    take 3
    let parts ← signature language parse
    return typeNode line parts
  else if word == "abstract" && wordAt behind == "new".toList then
    take 8
    let _ ← anyWord
    let parts ← signature language parse
    return typeNode line parts
  else if word == "export" && beginsWord behind then
    let inner ← parse .statement
    return inner.tree
  else if rest.head? == some '[' || rest.head? == some '-' || rest.head? == some '+' ||
      (word == "readonly" && behind.head? == some '[') then
    orElse (indexSignature parse) plain
  else plain

def typeMembers (read : List Tree) : Reading Parsed := do
  let rest ← upcoming
  let line ← currentLine
  let done : Reading Parsed := return { tree := typeNode line read.reverse }
  match rest with
  | '}' :: _ => done
  | '|' :: '}' :: _ => done
  | first :: _ =>
      if read.isEmpty && (first == ',' || first == ';') then take 1
      let rest ← upcoming
      if rest.head? == some '}' || goesOn "|\x7d" rest then done
      else
        let member ← typeMember language parse
        let read := member :: read
        let before ← behindToken
        let rest ← upcoming
        if rest.head? == some ',' || rest.head? == some ';' then
          take 1
          parse (.typeMembers read)
        else if rest.head? == some '}' || goesOn "|\x7d" rest || mayEnd language .other before then
          parse (.typeMembers read)
        else fail
  | [] => fail

def tupleMembers (read : List Tree) : Reading Parsed := do
  let rest ← upcoming
  let line ← currentLine
  if rest.head? == some ']' then return { tree := typeNode line read.reverse }
  else
    let spread := goesOn "..." rest
    if spread then take 3
    let named : Reading Tree := do
      let _ ← anyWord
      let _ ← sign? "?"
      sign ":"
      let inner ← parse .type
      return inner.tree
    let unnamed : Reading Tree := do
      let inner ← parse .type
      let _ ← sign? "?"
      return inner.tree
    let member ← orElse named unnamed
    let read := member :: read
    let rest ← upcoming
    if rest.head? == some ',' then
      take 1
      parse (.tupleMembers read)
    else if rest.head? == some ']' then return { tree := typeNode line read.reverse }
    else fail

end

end UiContract.Script
