import UiContract.Script.Grammar

/-!
Markup elements inside expressions: a name with attributes, and children between the opening and the
closing part. The names of both parts need not agree.
-/
namespace UiContract.Script

def referenceLength? (rest : List Char) : Option Nat :=
  let length := match rest with
    | '#' :: mark :: digits =>
        if mark == 'x' || mark == 'X' then
          let count := countWhile Text.isHexDigit digits
          if 1 ≤ count && count ≤ 6 then count + 2 else 0
        else
          let count := countWhile Char.isDigit (mark :: digits)
          if 1 ≤ count && count ≤ 5 then count + 1 else 0
    | _ =>
        let count := countWhile Char.isAlpha rest
        if 1 ≤ count && count ≤ 30 then count else 0
  if 0 < length && rest[length]? == some ';' then some (length + 1) else none

def markupNameLength (rest : List Char) : Nat :=
  let word := wordAt rest
  if word == [] then 0
  else if rest[word.length]? == some '-' then
    countWhile (fun character => character == '-' || isWordCharacter character) rest
  else word.length

def markupName : Reading Unit := do
  let rest ← upcoming
  let length := markupNameLength rest
  if length == 0 then fail else take length

def markupMembers : Nat → Reading Unit
  | 0 => return
  | count + 1 => do
      if ← sign? "." then
        markupName
        markupMembers count
      else return

/-- The name of an element: a word, words with dots between them, or two words with a colon. -/
def elementName : Reading Unit := do
  markupName
  if ← sign? ":" then markupName else markupMembers 100

/-- The length of the text of an attribute behind its opening quote, the closing one included. The
first number counts characters of a reference that are passed over. -/
def attributeText? (quote : Char) : Nat → Nat → List Char → Option Nat
  | _, _, [] => none
  | skipped + 1, count, _ :: rest => attributeText? quote skipped (count + 1) rest
  | 0, count, character :: rest =>
      if character == quote then some (count + 1)
      else if character == '&' then
        match referenceLength? rest with
        | some length => attributeText? quote length (count + 1) rest
        | none =>
            if rest.head?.any fun next => next == '#' || next.isAlpha then none
            else attributeText? quote 0 (count + 1) rest
      else attributeText? quote 0 (count + 1) rest

section

variable (language : Language) (parse : Grammar)

def markupExpression : Reading Tree := do
  skip
  let line ← currentLine
  sign "\x7b"
  let rest ← upcoming
  if rest.head? == some '}' then
    take 1
    return above .expression line []
  else if goesOn "..." rest then
    take 3
    let inner ← parse (.expression Mode.bracketed)
    sign "\x7d"
    return above .expression line [inner.tree]
  else
    let inner ← parse (.sequence Mode.bracketed)
    sign "\x7d"
    return above .expression line [inner.tree]

def attributeValue : Reading (List Tree) := do
  let rest ← upcoming
  match rest with
  | '{' :: _ =>
      let inner ← markupExpression parse
      return [inner]
  | '<' :: _ =>
      let inner ← parse .markup
      return [inner.tree]
  | quote :: behind =>
      if quote == '"' || quote == '\'' then
        match attributeText? quote 0 0 behind with
        | some length =>
            take (length + 1)
            return []
        | none => fail
      else fail
  | [] => fail

def markupAttributes (read : List Tree) : Reading Parsed := do
  let rest ← upcoming
  let line ← currentLine
  match rest with
  | '>' :: _ => return { tree := above .expression line read.reverse }
  | '/' :: _ => return { tree := above .expression line read.reverse }
  | '{' :: _ =>
      let inner ← markupExpression parse
      parse (.markupAttributes (inner :: read))
  | _ =>
      markupName
      if ← sign? ":" then markupName
      if ← sign? "=" then
        let value ← attributeValue parse
        parse (.markupAttributes (value.reverse ++ read))
      else parse (.markupAttributes read)

def endsMarkupText (character : Char) : Bool :=
  character == '<' || character == '>' || character == '{' || character == '}' || character == '&'

def markupChildren (read : List Tree) : Reading Parsed := do
  take (countWhile (fun character => !endsMarkupText character) (← ahead))
  let rest ← ahead
  let line ← currentLine
  match rest with
  | '<' :: '/' :: _ => return { tree := above .expression line read.reverse }
  | '<' :: _ =>
      let inner ← parse .markup
      parse (.markupChildren (inner.tree :: read))
  | '{' :: _ =>
      let inner ← markupExpression parse
      parse (.markupChildren (inner :: read))
  | '&' :: behind =>
      match referenceLength? behind with
      | some length =>
          take (length + 1)
          parse (.markupChildren read)
      | none => fail
  | _ => fail

def markup : Reading Parsed := do
  skip
  let line ← currentLine
  sign "<"
  let named := beginsWord (← upcoming)
  let attributes ← do
    if named then
      elementName
      let types ← do
        let rest ← upcoming
        if hasTypes language && rest.head? == some '<' then
          take 1
          let given ← parse (.typeList [])
          sign ">"
          pure [given.tree]
        else pure []
      let attributes ← parse (.markupAttributes [])
      pure (types ++ attributes.tree.children)
    else pure []
  let rest ← upcoming
  if named && goesOn "/>" rest then
    take 2
    return { tree := above .expression line attributes }
  else
    sign ">"
    let inner ← parse (.markupChildren [])
    take 2
    let rest ← upcoming
    if beginsWord rest then elementName
    sign ">"
    return { tree := above .expression line (attributes ++ inner.tree.children) }

end

end UiContract.Script
