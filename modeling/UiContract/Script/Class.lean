import UiContract.Script.Grammar

/-!
The members of classes: fields, methods, blocks and signatures, with the words and decorators in
front of them.
-/
namespace UiContract.Script

def classModifiers (language : Language) : List String :=
  ["static", "async", "get", "set"] ++
    (if hasTypes language then
      ["public", "private", "protected", "declare", "override", "readonly", "abstract", "accessor"]
    else [])

section

variable (language : Language) (parse : Grammar)

def decoratorMembers : Nat → Reading Unit
  | 0 => return
  | count + 1 => do
      if ← sign? "." then
        let _ ← anyWord
        decoratorMembers count
      else return

def decorator : Reading Tree := do
  skip
  let line ← currentLine
  sign "@"
  let rest ← upcoming
  if rest.head? == some '(' then condition language parse
  else
    let name ← anyWord
    decoratorMembers 100
    let crossed ← crossesLine
    let rest ← upcoming
    let types ← do
      if hasTypes language && rest.head? == some '<' then
        take 1
        let given ← parse (.typeList [])
        sign ">"
        pure [given.tree]
      else pure []
    let rest ← upcoming
    if rest.head? == some '(' && !crossed then
      skip
      let start ← currentLine
      take 1
      let items ← parse (.argumentItems [])
      sign ")"
      let given := above .arguments start items.tree.children
      return above .call name.line ([(name.leaf .identifier).inRole .function] ++ types ++
        [given.inRole .arguments])
    else return above .expression line [name.leaf .identifier]

def decorators (read : List Tree) : Reading Parsed := do
  let rest ← upcoming
  let line ← currentLine
  if rest.head? == some '@' then
    let next ← decorator language parse
    parse (.decorators (next :: read))
  else return { tree := above .expression line read.reverse }

def superclasses (read : List Tree) : Reading Parsed := do
  let first ← parse (.expression {})
  let read := first.tree :: read
  if ← signIf (hasTypes language) "," then parse (.superclasses read)
  else return { tree := above .expression first.tree.line read.reverse }

def endMember (ending : Ending) : Reading Unit := do
  let rest ← ahead
  if hasTypes language && (afterGap rest).head? == some ',' then sign ","
  else semicolon language ending

def fieldRest (line : Nat) (name : List Tree) : Reading Tree := do
  let types ← typeBehindColon? language parse
  if ← sign? "=" then
    let value ← parse (.expression {})
    endMember language .expression
    return above .expression line (name ++ types ++ [value.tree])
  else
    endMember language .other
    return above .expression line (name ++ types)

def methodRest (line : Nat) (name : List Tree) : Reading Tree := do
  let before ← signature language parse
  let rest ← ahead
  if (afterGap rest).head? == some '{' then
    let body ← block parse
    return above .expression line (name ++ before ++ [body])
  else if hasTypes language then
    endMember language .signature
    return above .expression line (name ++ before)
  else
    skip
    fail

def classMember : Reading Tree := do
  let marks ← do
    let rest ← upcoming
    if rest.head? == some '@' then
      let marks ← parse (.decorators [])
      pure [marks.tree]
    else pure []
  let word ← upcomingWord
  let line ← currentLine
  let behind ← behindWord
  if word == "static" && behind.head? == some '{' then
    take 6
    block parse
  else
    let _ ← propertyModifiers (classModifiers language) 10
    let _ ← sign? "*"
    let rest ← upcoming
    let named : Reading Tree := do
      let (name, _) ← propertyName parse
      if hasTypes language then
        let rest ← upcoming
        if rest.head? == some '?' || (rest.head? == some '!' && !goesOn "!=" rest) then take 1
      let before ← ahead
      let rest := afterGap before
      if rest.head? == some '(' || (hasTypes language && rest.head? == some '<') then
        methodRest language parse line (marks ++ [name])
      else fieldRest language parse line (marks ++ [name])
    if hasTypes language && rest.head? == some '[' then
      let indexed : Reading Tree := do
        sign "["
        let _ ← anyWord
        sign ":"
        let key ← parse .type
        sign "]"
        let value ← typeBehindColon? language parse
        endMember language .other
        return above .typePosition line (key.tree :: value)
      orElse indexed named
    else named

def classMembers (read : List Tree) : Reading Parsed := do
  let rest ← upcoming
  let line ← currentLine
  match rest with
  | '}' :: _ => return { tree := above .expression line read.reverse }
  | ';' :: _ =>
      take 1
      parse (.classMembers read)
  | _ =>
      let next ← classMember language parse
      parse (.classMembers (next :: read))

end

end UiContract.Script
