import UiContract.Toml.Numbers
import UiContract.Toml.Tables

/-!
TOML documents: lines with a key and a value, and headers of tables and of arrays of tables. The first
fault is the answer where a document cannot be read.
-/
namespace UiContract.Toml

def isKeyCharacter (character : Char) : Bool :=
  character.isAlphanum || character == '_' || character == '-'

def keyPart : Reading Key := do
  let rest ← ahead
  let first ← offset
  let name ← do
    if rest.head? == some '"' || rest.head? == some '\'' then lineString
    else
      let name := rest.takeWhile isKeyCharacter
      if name.isEmpty then softFault "invalid key"
      else
        take name.length
        pure (String.ofList name)
  return { name, span := some ⟨first, ← offset⟩ }

def spacedKeyPart : Reading Key := do
  skipBlanks
  let part ← keyPart
  skipBlanks
  return part

def moreKeyParts : Nat → List Key → Reading (List Key)
  | 0, read => return read
  | count + 1, read => do
      if (← peek) == some '.' then
        let next ← attempt do
          take 1
          spacedKeyPart
        match next with
        | some part => moreKeyParts count (part :: read)
        | none => return read
      else return read

def depthLimit : Nat := 80

def tooDeep : String := "recursion limit exceeded"

def dottedKey : Reading (List Key × Key) := do
  let start ← get
  let first ← spacedKeyPart
  let read ← moreKeyParts (← ahead).length [first]
  if depthLimit ≤ read.length then
    set start
    softFault ("invalid key\n" ++ tooDeep)
  else return (read.tail.reverse, read.headD first)

def equalSign : Reading Unit := do
  if (← peek) == some '=' then take 1 else fault "expected \x60.\x60, \x60=\x60"

def wordValue (word : String) (value : Scalar) (soft : Bool) : Reading Scalar := do
  if word.toList.isPrefixOf (← ahead) then
    take word.length
    return value
  else if soft then softFault ""
  else fault ""

def scalar : Reading Scalar := do
  match ← peek with
  | none => softFault ""
  | some first =>
      if first == '"' || first == '\'' then return .text (← string)
      else if first == '+' || first == '-' || first.isDigit then number
      else if first == '_' then softFault "invalid integer\nexpected leading digit"
      else if first == '.' then softFault (badFraction ++ "\nexpected leading digit")
      else if first == 't' then wordValue "true" (.boolean true) false
      else if first == 'f' then wordValue "false" (.boolean false) false
      else if first == 'i' then wordValue "inf" (.double (.infinite false)) true
      else if first == 'n' then wordValue "nan" (.double .notANumber) true
      else softFault "invalid string\nexpected \x60\"\x60, \x60'\x60"

def skipLines : Nat → Reading Unit
  | 0 => return
  | count + 1 => do
      skipBlanks
      let rest ← ahead
      let comment := commentLength rest
      let lineEnd := lineEndLength (rest.drop comment)
      if lineEnd != 0 then
        take (comment + lineEnd)
        skipLines count

def skipGap : Reading Unit := do skipLines ((← ahead).length + 1)

def spacedValue (value : Reading Datum) : Reading Datum := do
  skipGap
  let read ← value
  skipGap
  return read

def moreValues (value : Reading Datum) : Nat → List Datum → Reading (List Datum)
  | 0, read => return read
  | count + 1, read => do
      if (← peek) == some ',' then
        let next ← attempt do
          take 1
          spacedValue value
        match next with
        | some item => moreValues value count (item :: read)
        | none => return read
      else return read

def arrayRest (value : Reading Datum) : Reading (List Datum) := do
  if (← peek) == some ']' then
    take 1
    return []
  else
    let items ← match ← attempt (spacedValue value) with
      | some first => do
          let read ← moreValues value (← ahead).length [first]
          if (← peek) == some ',' then take 1
          pure read.reverse
      | none => pure []
    skipGap
    if (← peek) == some ']' then
      take 1
      return items
    else fault "invalid array\nexpected \x60]\x60"

def inlineEntry (value : Reading Datum) : Reading (List Key × Key × Datum) := do
  let (path, key) ← dottedKey
  firmly do
    equalSign
    skipBlanks
    let read ← value
    skipBlanks
    return (path, key, read)

def moreEntries (value : Reading Datum) :
    Nat → List (List Key × Key × Datum) → Reading (List (List Key × Key × Datum))
  | 0, read => return read
  | count + 1, read => do
      if (← peek) == some ',' then
        let next ← attempt do
          take 1
          inlineEntry value
        match next with
        | some entry => moreEntries value count (entry :: read)
        | none => return read
      else return read

def inlineTableRest (value : Reading Datum) : Reading (List (Key × Datum)) := do
  let start ← get
  let entries ← match ← attempt (inlineEntry value) with
    | some first => do
        let read ← moreEntries value (← ahead).length [first]
        pure read.reverse
    | none => pure []
  skipBlanks
  let made := entries.foldlM (fun node (path, key, datum) =>
    Node.addValue none true path key datum node) Node.empty
  match made with
  | .error problem =>
      set start
      fault problem.message
  | .ok node =>
      if (← peek) == some '}' then
        take 1
        return Node.data node.entries
      else fault "invalid inline table\nexpected \x60\x7d\x60"

def value : Nat → Reading Datum
  | 0 => fault tooDeep
  | depth + 1 => do
      let first ← offset
      match ← peek with
      | some '[' =>
          if depth == 0 then fault tooDeep
          take 1
          let items ← firmly (arrayRest (value depth))
          return .sequence (some ⟨first, ← offset⟩) items
      | some '{' =>
          if depth == 0 then fault tooDeep
          take 1
          let entries ← firmly (inlineTableRest (value depth))
          return .table (some ⟨first, ← offset⟩) entries
      | _ =>
          let read ← scalar
          return .scalar (some ⟨first, ← offset⟩) read

def lineEnd (message : String) : Reading Unit := do
  skipBlanks
  take (commentLength (← ahead))
  let rest ← ahead
  if !rest.isEmpty then
    let length := lineEndLength rest
    if length == 0 then fault message else take length

def noLineEnd : String := "expected newline, \x60#\x60"

def added {α : Type} (start : Input) (label : String) (made : Except TableFault α) : Reading α :=
  match made with
  | .ok result => return result
  | .error problem => do
      set start
      fault (label ++ problem.message)

def keyLine (assembly : Assembly) : Reading Assembly := do
  let start ← get
  let (path, key) ← dottedKey
  equalSign
  skipBlanks
  let read ← value depthLimit
  lineEnd noLineEnd
  added start "" (assembly.addEntry path key read)

def headerLabel : String := "invalid table header\n"

def header (assembly : Assembly) : Reading Assembly := do
  let start ← get
  let rest ← ahead
  if rest.length < 2 then fault "invalid table header"
  else
    let brackets := if rest[1]? == some '[' then 2 else 1
    let closing := List.replicate brackets ']'
    take brackets
    let (path, key) ← dottedKey
    if !closing.isPrefixOf (← ahead) then
      fault (headerLabel ++ "expected \x60.\x60, " ++ Wording.marked (String.ofList closing))
    take brackets
    let span : Span := ⟨start.offset, ← offset⟩
    lineEnd (headerLabel ++ noLineEnd)
    let whole := path ++ [key]
    added start headerLabel <|
      if brackets == 2 then assembly.openArray whole span else assembly.openTable whole span

def lines : Nat → Assembly → Reading Assembly
  | 0, assembly => return assembly
  | count + 1, assembly => do
      skipBlanks
      let rest ← ahead
      match rest with
      | [] => return assembly
      | '#' :: _ =>
          lineEnd ""
          lines count assembly
      | '[' :: _ => lines count (← header assembly)
      | _ =>
          let length := lineEndLength rest
          if length != 0 then
            take length
            lines count assembly
          else if rest.head? == some '\r' then fault ""
          else lines count (← keyLine assembly)

/-- A document. A mark of the byte order in front does not count. -/
def document : Reading Datum := do
  if (← peek) == some '\uFEFF' then take 1
  let assembly ← lines ((← ahead).length + 1) {}
  added (← get) "" assembly.finish

def parse (text : String) : Except Fault Datum :=
  match document { rest := text.toList } with
  | .ok (datum, _) => .ok datum
  | .error fault => .error fault

end UiContract.Toml
