import UiContract.Regex.Input
import UiContract.Text.Hex

/-!
What a backslash begins: a character by its number, a property or a kind of characters, a position, or
a character that stands for itself.
-/
namespace UiContract.Regex

def isMeta (character : Char) : Bool :=
  "\\.+*?()|[]\x7b\x7d^$#&-~".toList.contains character

def isEscapable (character : Char) : Bool :=
  isMeta character ||
    (character.toNat < 0x80 && !character.isAlphanum && character != '<' && character != '>')

def fixedDigits : Nat → List Char → Reading (List Char)
  | 0, read => do
      let _ ← stepAndSkip
      return read.reverse
  | count + 1, read => do
      if !read.isEmpty then
        let _ ← stepAndSkip
      match ← peek with
      | none => faultHere .escapeEnd
      | some digit =>
          if Text.isHexDigit digit then fixedDigits count (digit :: read) else faultNext .hexDigit

def bracedDigits : Nat → List Char → Reading (List Char)
  | 0, read => return read.reverse
  | count + 1, read => do
      let _ ← stepAndSkip
      match ← peek with
      | none => return read.reverse
      | some '}' => return read.reverse
      | some digit =>
          if Text.isHexDigit digit then bracedDigits count (digit :: read) else faultNext .hexDigit

def bracedCharacter : Reading Char := do
  let brace ← place
  let first := (← nextExtent).last
  let digits ← bracedDigits ((← ahead).length + 1) []
  if ← atEnd then faultSince .escapeEnd brace
  else
    let inside ← since first
    let _ ← stepAndSkip
    if digits.isEmpty then faultSince .hexEmpty brace
    else match Text.scalar? (Text.digitsValue 16 digits) with
      | some character => return character
      | none => fault .hexNoScalar inside

def fixedCharacter (count : Nat) : Reading Char := do
  let first ← place
  let digits ← fixedDigits count []
  match Text.scalar? (Text.digitsValue 16 digits) with
  | some character => return character
  | none => faultSince .hexNoScalar first

def numberedCharacter (start : Place) (letter : Char) : Reading Node := do
  let more ← stepAndSkip
  if !more then faultHere .escapeEnd
  else
    let braced := (← peek) == some '{'
    let count := if letter == 'x' then 2 else if letter == 'u' then 4 else 8
    let character ← if braced then bracedCharacter else fixedCharacter count
    return .literal
      { extent := ← since start, character, isByte := !braced && letter == 'x' }

def bracedName : Nat → List Char → Reading (List Char)
  | 0, read => return read.reverse
  | count + 1, read => do
      let _ ← stepAndSkip
      match ← peek with
      | none => return read.reverse
      | some '}' => return read.reverse
      | some character => bracedName count (character :: read)

def splitAt? (separator : List Char) : List Char → Option (List Char × List Char)
  | [] => none
  | character :: rest =>
      match Text.afterStart? separator (character :: rest) with
      | some after => some ([], after)
      | none => (splitAt? separator rest).map fun (first, second) => (character :: first, second)

def propertyOf (name : List Char) : Bool × Property :=
  let valued (negated : Bool) (parts : List Char × List Char) : Bool × Property :=
    (negated, .valued (String.ofList parts.1) (String.ofList parts.2))
  match splitAt? ['!', '='] name, splitAt? [':'] name, splitAt? ['='] name with
  | some parts, _, _ => valued true parts
  | none, some parts, _ => valued false parts
  | none, none, some parts => valued false parts
  | none, none, none => (false, .named (String.ofList name))

def propertyEscape (start : Place) (negated : Bool) : Reading Node := do
  let more ← stepAndSkip
  if !more then faultHere .escapeEnd
  else match ← peek with
    | some '{' =>
        let name ← bracedName ((← ahead).length + 1) []
        if ← atEnd then faultHere .escapeEnd
        else
          take 1
          let (opposite, property) := propertyOf name
          return .set (.property (← since start) (negated != opposite) property)
    | some '\\' => faultNext .propertyInvalid
    | letter =>
        let _ ← stepAndSkip
        return .set (.property (← since start) negated (.named (String.ofList letter.toList)))

def isAnchorLetter (character : Char) : Bool := character.isAlpha || character == '-'

def anchorName : Nat → List Char → Reading (List Char)
  | 0, read => return read.reverse
  | count + 1, read => do
      match ← peek with
      | none => return read.reverse
      | some letter =>
          if isAnchorLetter letter then
            let _ ← stepAndSkip
            anchorName count (letter :: read)
          else return read.reverse

def namedAnchors : List (String × Anchor) :=
  [("start", .wordStart), ("end", .wordEnd), ("start-half", .wordStartHalf),
   ("end-half", .wordEndHalf)]

/-- A position at a word by its name in braces, behind the backslash at a place. Braces that cannot
hold such a name are left alone. -/
def namedAnchor? (start : Place) : Reading (Option Anchor) := do
  let before ← get
  let more ← stepAndSkip
  if !more then faultSince .wordBoundaryEnd start
  else
    let contents ← place
    if !((← peek).any isAnchorLetter) then
      set before
      return none
    else
      let name ← anchorName (← ahead).length []
      if (← peek) != some '}' then faultSince .wordBoundaryUnclosed before.place
      else
        let whole ← since contents
        take 1
        match namedAnchors.find? fun entry => entry.1 == String.ofList name with
        | some entry => return some entry.2
        | none => fault .wordBoundaryUnknown whole

def wordBoundary (start : Place) : Reading Node := do
  let named ← match ← peek with
    | some '{' => namedAnchor? start
    | _ => pure none
  return .anchor (← since start) (named.getD .wordBoundary)

def letterOf? : Char → Option Char
  | 'a' => some '\x07'
  | 'f' => some '\x0c'
  | 't' => some '\t'
  | 'n' => some '\n'
  | 'r' => some '\r'
  | 'v' => some '\x0b'
  | _ => none

def anchorOf? : Char → Option Anchor
  | 'A' => some .textStart
  | 'z' => some .textEnd
  | 'B' => some .noWordBoundary
  | '<' => some .wordStart
  | '>' => some .wordEnd
  | _ => none

def kindOf? : Char → Option (Bool × CharKind)
  | 'd' => some (false, .digit)
  | 's' => some (false, .space)
  | 'w' => some (false, .word)
  | 'D' => some (true, .digit)
  | 'S' => some (true, .space)
  | 'W' => some (true, .word)
  | _ => none

def letterEscape (start : Place) (letter : Char) : Reading Node := do
  take 1
  let extent ← since start
  if isEscapable letter then return .literal { extent, character := letter }
  else if letter == 'b' then wordBoundary start
  else match letterOf? letter, anchorOf? letter, kindOf? letter with
    | some character, _, _ => return .literal { extent, character }
    | none, some anchor, _ => return .anchor extent anchor
    | none, none, some (negated, kind) => return .set (.kind extent negated kind)
    | none, none, none => fault .escapeUnknown extent

def escape : Reading Node := do
  let start ← place
  take 1
  match ← peek with
  | none => faultSince .escapeEnd start
  | some letter =>
      if letter.isDigit then fault .backreference ⟨start, (← nextExtent).last⟩
      else if letter == 'x' || letter == 'u' || letter == 'U' then numberedCharacter start letter
      else if letter == 'p' || letter == 'P' then propertyEscape start (letter == 'P')
      else letterEscape start letter

end UiContract.Regex
