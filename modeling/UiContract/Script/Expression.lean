import UiContract.Script.Grammar

/-!
Expressions. Operators bind in no particular order here, since only the calls inside an expression
are looked at later: an expression is operands with operators between them, and an operand is a
beginning followed by members, calls and the like.
-/
namespace UiContract.Script

def assignmentOperators : List String :=
  [">>>=", "**=", "<<=", ">>=", "&&=", "||=", "??=", "+=", "-=", "*=", "/=", "%=", "&=", "|=", "^="]

def binaryOperators : List String :=
  ["===", "!==", ">>>", "==", "!=", "<=", ">=", "&&", "||", "??", "<<", ">>", "**", "+", "-", "*",
    "/", "%", "&", "|", "^", "<", ">"]

def signLength? (signs : List String) (rest : List Char) : Option Nat :=
  (signs.find? fun text => goesOn text rest).map String.length

/-- Whether a question mark begins a choice. In a language with types it may also mark what can be
left out. -/
def beginsChoice (language : Language) (rest : List Char) : Bool :=
  match rest with
  | '?' :: '.' :: behind => behind.head?.any Char.isDigit
  | '?' :: '?' :: _ => false
  | '?' :: behind =>
      if hasTypes language then
        match behind.dropWhile isSpace with
        | ':' :: _ => false
        | ')' :: _ => false
        | ',' :: _ => false
        | '.' :: more => more.head?.any Char.isDigit
        | _ => true
      else true
  | _ => false

def closesTypeArguments (rest : List Char) : Bool :=
  match rest with
  | [] => true
  | first :: _ =>
      ")]:;,.?=|&^\x7b\x7d`".toList.contains first || goesOn "!=" rest ||
        (let word := String.ofList (wordAt rest)
         word == "as" || word == "satisfies" || word == "implements" || word == "instanceof")

def unaryWords : List String := ["typeof", "void", "delete", "await"]

section

variable (language : Language) (parse : Grammar)

def sequence (mode : Mode) : Reading Parsed := do
  let first ← parse (.expression mode)
  if ← sign? "," then
    let others ← parse (.sequence mode)
    return { tree := above .expression first.tree.line [first.tree, others.tree] }
  else return first

def expression (mode : Mode) : Reading Parsed := do
  let read ← parse (.cover mode)
  if read.shape.expression then return read else fail

def prefixed (mode : Mode) (line : Nat) (length : Nat) : Reading Parsed := do
  take length
  let inner ← parse (.expression mode)
  return { tree := above .expression line [inner.tree] }

def yielded (mode : Mode) (line : Nat) : Reading Parsed := do
  take 5
  if ← sign? "*" then
    let inner ← parse (.expression mode)
    return { tree := above .expression line [inner.tree] }
  else
    let ended ← endsHere language .other
    let rest ← upcoming
    if ended || rest == [] || ")]\x7d,;:".toList.contains (rest.headD ' ') then
      parse (.operators mode { tree := above .expression line [] })
    else
      let inner ← parse (.expression mode)
      return { tree := above .expression line [inner.tree] }

def arrowBody (mode : Mode) (line : Nat) (before : List Tree) : Reading Parsed := do
  sign "=>"
  let rest ← upcoming
  let short : Reading Parsed := do
    let body ← parse (.expression mode)
    return { tree := above .expression line (before ++ [body.tree]) }
  if rest.head? == some '{' then
    orElse (do
      let body ← block parse
      return { tree := above .expression line (before ++ [body]) }) short
  else short

def genericArrow (mode : Mode) : Reading Parsed := do
  skip
  let line ← currentLine
  let rest ← upcoming
  if hasTypes language && rest.head? == some '<' then
    let before ← signature language parse
    arrowBody parse mode line before
  else fail

def assertion (mode : Mode) : Reading Parsed := do
  let line ← currentLine
  sign "<"
  let claimed ← parse (.typeList [])
  sign ">"
  let inner ← parse (.expression mode)
  return { tree := above .expression line [claimed.tree, inner.tree] }

def cover (mode : Mode) : Reading Parsed := do
  let rest ← upcoming
  let line ← currentLine
  let word := String.ofList (wordAt rest)
  if goesOn "++" rest || goesOn "--" rest then prefixed parse mode line 2
  else if "!~+-".toList.contains (rest.headD ' ') then prefixed parse mode line 1
  else if unaryWords.contains word then prefixed parse mode line word.length
  else if word == "yield" then yielded language parse mode line
  else if rest.head? == some '<' && language == .typeScript then
    orElse (genericArrow language parse mode) (assertion parse mode)
  else
    let first ← parse (.operand mode)
    parse (.operators mode first)

/-- A choice behind its question mark. A parenthesis in the first part is read as a function with a
declared result only where the choice can be read to its end that way. -/
def choice (mode : Mode) (first : Parsed) : Reading Parsed := do
  let attempt (mode : Mode) : Reading Parsed := do
    let yes ← parse (.expression { mode with allowIn := true })
    sign ":"
    let no ← parse (.expression mode)
    return { tree := above .expression first.tree.line [first.tree, yes.tree, no.tree] }
  if hasTypes language && mode.typedArrow then
    orElse (attempt mode) <| do
      let yes ← parse (.expression { mode with allowIn := true, typedArrow := false })
      sign ":"
      let no ← parse (.expression mode)
      return { tree := above .expression first.tree.line [first.tree, yes.tree, no.tree] }
  else attempt mode

def operators (mode : Mode) (first : Parsed) : Reading Parsed := do
  let crossed ← crossesLine
  let rest ← upcoming
  let word := String.ofList (wordAt rest)
  let binary (length : Nat) : Reading Parsed := do
    take length
    let other ← parse (.expression mode)
    return { tree := above .expression first.tree.line [first.tree, other.tree] }
  if goesOn "=>" rest then return first
  else if goesOn "=" rest && !goesOn "==" rest then
    if first.shape.target || first.shape.bare then
      take 1
      let value ← parse (.expression mode)
      return { tree := above .expression first.tree.line [first.tree, value.tree],
               shape := { initialized := first.shape.target } }
    else return first
  else if !first.shape.expression then return first
  else match signLength? assignmentOperators rest with
  | some length =>
      if first.shape.simple || first.shape.bare then binary length else return first
  | none =>
      if goesOn "++" rest || goesOn "--" rest then return first
      else match signLength? binaryOperators rest with
      | some length => binary length
      | none =>
          if word == "instanceof" || (word == "in" && mode.allowIn) then binary word.length
          else if beginsChoice language rest then
            take 1
            choice language parse mode first
          else if hasTypes language && (word == "as" || word == "satisfies") &&
              (!crossed || mode.inside) then
            take word.length
            let claimed ← parse .type
            parse (.operators mode
              { tree := above .expression first.tree.line [first.tree, claimed.tree] })
          else return first

def callArguments : Reading Tree := do
  skip
  let line ← currentLine
  sign "("
  let items ← parse (.argumentItems [])
  sign ")"
  return above .arguments line items.tree.children

def template : Reading Tree := do
  skip
  let line ← currentLine
  sign "`"
  let parts ← parse (.templateParts [])
  return above .expression line parts.tree.children

def call (head : Tree) (given : Tree) : Tree :=
  above .call head.line [head.inRole .function, given.inRole .arguments]

def member (mode : Mode) (head : Parsed) : Reading Parsed := do
  let private_ ← sign? "#"
  let name ← anyWord
  let kind := if private_ then Kind.expression else Kind.identifier
  parse (.chain mode
    { tree := above .expression head.tree.line [head.tree, name.leaf kind], shape := Shape.place })

def subscript (mode : Mode) (head : Parsed) : Reading Parsed := do
  sign "["
  let index ← parse (.sequence Mode.bracketed)
  sign "]"
  parse (.chain mode
    { tree := above .expression head.tree.line [head.tree, index.tree], shape := Shape.place })

def called (mode : Mode) (head : Parsed) (types : List Tree) : Reading Parsed := do
  let given ← callArguments parse
  let tree := if types.isEmpty then call head.tree given
    else above .call head.tree.line ([head.tree.inRole .function] ++ types ++
      [given.inRole .arguments])
  parse (.chain mode { tree })

def typeArguments : Reading Tree := do
  sign "<"
  let given ← parse (.typeList [])
  sign ">"
  return given.tree

def instantiated (mode : Mode) (head : Parsed) : Reading Parsed := do
  let given ← typeArguments parse
  let ended ← endsHere language .other
  let rest ← upcoming
  if rest.head? == some '(' then called parse mode head [given]
  else if ended || closesTypeArguments rest then
    parse (.chain mode { tree := above .expression head.tree.line [head.tree, given] })
  else fail

def chain (mode : Mode) (head : Parsed) : Reading Parsed := do
  if !head.shape.expression then return head
  else
    let crossed ← crossesLine
    let rest ← upcoming
    match rest with
    | '.' :: next :: _ =>
        if next.isDigit || next == '.' then return head
        else
          take 1
          member parse mode head
    | '?' :: '.' :: next :: _ =>
        if next.isDigit then return head
        else
          take 2
          let behind ← upcoming
          match behind with
          | '(' :: _ => called parse mode head []
          | '[' :: _ => subscript parse mode head
          | '<' :: _ =>
              let given ← typeArguments parse
              called parse mode head [given]
          | _ => member parse mode head
    | '[' :: _ => subscript parse mode head
    | '(' :: _ => called parse mode head []
    | '`' :: _ =>
        let text ← template parse
        parse (.chain mode { tree := call head.tree text })
    | '!' :: next :: _ =>
        if hasTypes language && next != '=' && !crossed then
          take 1
          parse (.chain mode
            { tree := above .expression head.tree.line [head.tree], shape := Shape.place })
        else return head
    | ['!'] =>
        if hasTypes language && !crossed then
          take 1
          return { tree := above .expression head.tree.line [head.tree], shape := Shape.place }
        else return head
    | '<' :: _ =>
        if hasTypes language && !goesOn "<<" rest && !goesOn "<=" rest then
          orElse (instantiated language parse mode head) (return head)
        else return head
    | first :: second :: _ =>
        if (first == '+' || first == '-') && second == first && !crossed then
          take 2
          parse (.chain mode { tree := above .expression head.tree.line [head.tree] })
        else return head
    | _ => return head

def parenthesized (mode : Mode) : Reading Parsed := do
  let line ← currentLine
  sign "("
  let items ← parse (.parenthesisItems {})
  sign ")"
  let rest ← upcoming
  let closed : Reading Parsed :=
    if items.shape.expression then
      return { tree := above .expression line [items.tree], shape := { bare := true } }
    else fail
  if items.shape.target && goesOn "=>" rest then arrowBody parse mode line [items.tree]
  else if items.shape.target && hasTypes language && mode.typedArrow && rest.head? == some ':' then
    orElse (do
      sign ":"
      let result ← resultType parse
      arrowBody parse mode line [items.tree, result]) closed
  else closed

def functionRest (line : Nat) : Reading Parsed := do
  let _ ← theWord "function"
  let _ ← sign? "*"
  let rest ← upcoming
  if beginsWord rest then
    let _ ← anyWord
  let before ← signature language parse
  let body ← block parse
  return { tree := above .expression line (before ++ [body]) }

/-- What the word `async` begins: a function, or a name like any other. -/
def asyncOperand (mode : Mode) (word : Word) : Reading Parsed := do
  let crossed ← crossesLine
  let rest ← upcoming
  let named : Parsed := { tree := word.leaf .identifier, shape := Shape.place }
  if crossed && !mode.inside then return named
  else
    let next := wordAt rest
    if next == "function".toList then functionRest language parse word.line
    else if next != [] then
      let behind ← behindWord
      if goesOn "=>" behind then
        let parameter ← anyWord
        arrowBody parse mode word.line [parameter.leaf .identifier]
      else return named
    else if goesOn "=>" rest then arrowBody parse mode word.line [named.tree]
    else if rest.head? == some '(' || (rest.head? == some '<' && hasTypes language) then
      orElse (do
        let before ← signature language parse
        arrowBody parse mode word.line before) (return named)
    else return named

def importOperand (word : Word) : Reading Parsed := do
  let head := word.leaf .importWord
  let rest ← upcoming
  match rest with
  | '(' :: _ =>
      let given ← callArguments parse
      return { tree := call head given }
  | '`' :: _ =>
      let text ← template parse
      return { tree := call head text }
  | '<' :: _ =>
      if hasTypes language then
        let types ← typeArguments parse
        let given ← callArguments parse
        return { tree := above .call word.line
                  [head.inRole .function, types, given.inRole .arguments] }
      else fail
  | '.' :: _ =>
      take 1
      let name ← anyWord
      return { tree := above .expression word.line [head, name.leaf .identifier],
               shape := Shape.place }
  | '?' :: '.' :: _ =>
      take 2
      let name ← anyWord
      return { tree := above .expression word.line [head, name.leaf .identifier],
               shape := Shape.place }
  | _ => fail

def newOperand (mode : Mode) (word : Word) : Reading Parsed := do
  if ← sign? "." then
    let _ ← theWord "target"
    return { tree := above .expression word.line [] }
  else
    let made ← parse (.operand mode)
    if !made.shape.expression then fail
    else
      let shape : Shape :=
        if made.tree.kind == .identifier || made.shape.bare then {} else made.shape
      return { tree := above .expression word.line [made.tree], shape }

def classRest (line : Nat) : Reading Tree := do
  let rest ← upcoming
  let name := String.ofList (wordAt rest)
  if name != "" && name != "extends" && !(name == "implements" && hasTypes language) then
    let _ ← anyWord
  let types ← typeParameters? language parse
  let heritage ← do
    if ← theWord? "extends" then
      let bases ← parse (.superclasses [])
      pure [bases.tree]
    else pure []
  let interfaces ← do
    if ← wordIf (hasTypes language) "implements" then
      let listed ← parse (.typeList [])
      pure [listed.tree]
    else pure []
  sign "\x7b"
  let members ← parse (.classMembers [])
  sign "\x7d"
  return above .expression line (types ++ heritage ++ interfaces ++ members.tree.children)

def wordOperand (mode : Mode) : Reading Parsed := do
  let text ← upcomingWord
  if text == "function" then
    let line ← currentLine
    functionRest language parse line
  else
    let word ← anyWord
    if text == "class" then
      let tree ← classRest language parse word.line
      return { tree }
    else if text == "async" then asyncOperand language parse mode word
    else if text == "new" then newOperand parse mode word
    else if text == "import" then importOperand language parse word
    else if text == "this" then
      return { tree := word.leaf .expression, shape := { parameter := hasTypes language } }
    else if text == "super" || text == "true" || text == "false" || text == "null" then
      return { tree := word.leaf .expression }
    else
      let crossed ← crossesLine
      let rest ← upcoming
      if goesOn "=>" rest then arrowBody parse mode word.line [word.leaf .identifier]
      else if text == "using" && beginsWord rest && !crossed &&
          !(["in", "of", "instanceof", "as", "satisfies"].contains
            (String.ofList (wordAt rest))) then
        let declared ← parse (.cover mode)
        if declared.shape.initialized then return { tree := declared.tree } else fail
      else return { tree := word.leaf .identifier, shape := Shape.place }

def beginning (mode : Mode) : Reading Parsed := do
  let rest ← upcoming
  let line ← currentLine
  match rest with
  | [] => fail
  | first :: behind =>
      if first == '(' then parenthesized language parse mode
      else if first == '[' then
        take 1
        let items ← parse (.arrayItems {})
        sign "]"
        return { tree := above .expression line [items.tree], shape := items.shape }
      else if first == '{' then
        take 1
        let items ← parse (.objectItems {})
        sign "\x7d"
        return { tree := above .expression line [items.tree], shape := items.shape }
      else if first == '`' then
        let tree ← template parse
        return { tree }
      else if first == '"' || first == '\'' then
        let text ← stringLiteral
        return { tree := text.leaf .string }
      else if first == '/' then
        match patternLength? false false 0 behind with
        | some length =>
            let flags := countWhile (fun flag => 'a' ≤ flag && flag ≤ 'z') (behind.drop length)
            take (1 + length + flags)
            return { tree := leaf .expression line [] }
        | none => fail
      else if first == '<' then
        if language == .javaScript then parse .markup
        else if language == .tsx then orElse (genericArrow language parse mode) (parse .markup)
        else orElse (genericArrow language parse mode) (assertion parse mode)
      else if first == '@' then
        let decorators ← parse (.decorators [])
        let word ← theWord "class"
        let tree ← classRest language parse word.line
        return { tree := above .expression line [decorators.tree, tree] }
      else if first == '#' then
        let name := wordAt behind
        if name == [] then fail
        else
          take (1 + name.length)
          let next ← upcomingWord
          if next == "in" then return { tree := leaf .expression line name } else fail
      else if beginsWord rest then wordOperand language parse mode
      else
        let length := numberLength rest
        if length == 0 then fail
        else
          take length
          return { tree := leaf .expression line (rest.take length) }

def operand (mode : Mode) : Reading Parsed := do
  let head ← beginning language parse mode
  parse (.chain mode head)

end

end UiContract.Script
