import UiContract.Script.Grammar

/-!
Import and export declarations. Their trees keep the words that mark types, the names with what they
are renamed to, and the specifier of the other module.
-/
namespace UiContract.Script

section

variable (language : Language) (parse : Grammar)

def moduleSource : Reading Tree := do
  let text ← stringLiteral
  return (text.leaf .string).inRole .source

def fromModule : Reading Tree := do
  let _ ← theWord "from"
  moduleSource

def exportedName (role : Role) : Reading Tree := do
  let rest ← upcoming
  if beginsWord rest then
    let name ← anyWord
    return (name.leaf .identifier).inRole role
  else
    let name ← stringLiteral
    return (name.leaf .string).inRole role

def beginsExportedName (rest : List Char) : Bool :=
  beginsWord rest || rest.head? == some '"' || rest.head? == some '\''

def importName : Reading Tree := do
  skip
  let line ← currentLine
  let word ← upcomingWord
  let behind ← behindWord
  let marked := hasTypes language &&
    ((word == "type" && beginsExportedName behind && wordAt behind != "as".toList) ||
      word == "typeof")
  let marks ← do
    if marked then
      let mark ← anyWord
      pure [mark.leaf .word]
    else pure []
  let name ← exportedName .name
  if ← theWord? "as" then
    let renamed ← anyWord
    return above .importSpecifier line
      (marks ++ [name, (renamed.leaf .identifier).inRole .renamed])
  else if name.kind == .string || name.text == "default".toList then fail
  else return above .importSpecifier line (marks ++ [name])

def importNames (read : List Tree) : Reading Parsed := do
  let rest ← upcoming
  let line ← currentLine
  match rest with
  | '}' :: _ => return { tree := above .namedImports line read.reverse }
  | _ =>
      let next ← importName language
      let read := next :: read
      let rest ← upcoming
      if rest.head? == some ',' then
        take 1
        parse (.importNames read)
      else if rest.head? == some '}' then
        return { tree := above .namedImports line read.reverse }
      else fail

def namedImports : Reading Tree := do
  skip
  let line ← currentLine
  sign "\x7b"
  let rest ← upcoming
  if rest.head? == some ',' then
    take 1
    sign "\x7d"
    return above .namedImports line []
  else
    let names ← parse (.importNames [])
    sign "\x7d"
    return above .namedImports line names.tree.children

def namespaceImport : Reading Tree := do
  skip
  let line ← currentLine
  sign "*"
  let _ ← theWord "as"
  let name ← anyWord
  return above .namespaceImport line [name.leaf .identifier]

def importedNames : Reading Tree := do
  let rest ← upcoming
  if rest.head? == some '*' then namespaceImport else namedImports parse

def importClause : Reading Tree := do
  let rest ← upcoming
  let line ← currentLine
  if beginsWord rest then
    let name ← anyWord
    if ← sign? "," then
      let others ← importedNames parse
      return above .importClause line [name.leaf .identifier, others]
    else return above .importClause line [name.leaf .identifier]
  else
    let names ← importedNames parse
    return above .importClause line [names]

def importAttribute : Reading (List Tree) := do
  if ← endsHere language .other then
    let rest ← ahead
    if (afterGap rest).head? != some ';' then return []
  let word ← upcomingWord
  if word == "with" || (word == "assert" && hasTypes language) then
    take word.length
    skip
    let line ← currentLine
    sign "\x7b"
    let items ← parse (.objectItems {})
    sign "\x7d"
    return [above .expression line [items.tree]]
  else return []

def dottedName : Nat → Reading Unit
  | 0 => return
  | count + 1 => do
      let _ ← anyWord
      if ← sign? "." then dottedName count else return

def importRest (line : Nat) : Reading Tree := do
  let word ← upcomingWord
  let behind ← behindWord
  let defaultType := word == "type" && (behind.head? == some ',' ||
    (wordAt behind == "from".toList &&
      (let source := afterGap (behind.drop 4)
       source.head? == some '"' || source.head? == some '\'')))
  let marks ← do
    if hasTypes language && (word == "type" || word == "typeof") && !defaultType then
      let mark ← anyWord
      pure [mark.leaf .word]
    else pure []
  let rest ← upcoming
  let finish (parts : List Tree) : Reading Tree := do
    let described ← importAttribute language parse
    semicolon language .other
    return above .importStatement line (marks ++ parts ++ described)
  if rest.head? == some '"' || rest.head? == some '\'' then
    let source ← moduleSource
    finish [source]
  else
    let behind ← behindWord
    if hasTypes language && beginsWord rest && behind.head? == some '=' then
      let start ← currentLine
      let name ← anyWord
      sign "="
      let next ← upcomingWord
      let called ← behindWord
      if next == "require" && called.head? == some '(' then
        take next.length
        sign "("
        let source ← moduleSource
        sign ")"
        finish [above .importRequireClause start [name.leaf .identifier, source]]
      else if marks.isEmpty then
        dottedName 100
        semicolon language .other
        return above .statement line []
      else fail
    else
      let clause ← importClause parse
      let source ← fromModule
      finish [clause, source]

def exportName : Reading Tree := do
  skip
  let line ← currentLine
  let word ← upcomingWord
  let marks ← do
    if hasTypes language && (word == "type" || word == "typeof") then
      let mark ← anyWord
      pure [mark.leaf .word]
    else pure []
  let name ← exportedName .name
  if ← theWord? "as" then
    let renamed ← exportedName .renamed
    return above .exportSpecifier line (marks ++ [name, renamed])
  else return above .exportSpecifier line (marks ++ [name])

def exportNames (read : List Tree) : Reading Parsed := do
  let rest ← upcoming
  let line ← currentLine
  match rest with
  | '}' :: _ => return { tree := above .exportClause line read.reverse }
  | _ =>
      let next ← exportName language
      let read := next :: read
      let rest ← upcoming
      if rest.head? == some ',' then
        take 1
        parse (.exportNames read)
      else if rest.head? == some '}' then
        return { tree := above .exportClause line read.reverse }
      else fail

def exportClause : Reading Tree := do
  skip
  let line ← currentLine
  sign "\x7b"
  let rest ← upcoming
  if rest.head? == some ',' then
    take 1
    sign "\x7d"
    return above .exportClause line []
  else
    let names ← parse (.exportNames [])
    sign "\x7d"
    return above .exportClause line names.tree.children

def exportedNames (line : Nat) (marks : List Tree) : Reading Tree := do
  let clause ← exportClause parse
  let ended ← endsHere language .other
  let word ← upcomingWord
  if word == "from" && !ended then
    let source ← fromModule
    semicolon language .other
    return above .exportStatement line (marks ++ [clause, source])
  else if ended then return above .exportStatement line (marks ++ [clause])
  else
    semicolon language .other
    return above .exportStatement line (marks ++ [clause])

def exportAll (line : Nat) : Reading Tree := do
  skip
  let start ← currentLine
  sign "*"
  let named ← do
    if ← theWord? "as" then
      let name ← exportedName .plain
      pure [above .namespaceExport start [name]]
    else pure []
  let source ← fromModule
  semicolon language .other
  return above .exportStatement line (named ++ [source])

end

end UiContract.Script
