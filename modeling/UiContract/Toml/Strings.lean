import UiContract.Text.Hex
import UiContract.Toml.Input

/-!
The four kinds of strings: with escapes or without, on one line or on several. Line ends inside a
string of several lines are read as plain ones, and one right behind the opening quotes is left out.
-/
namespace UiContract.Toml

def badEscape : String :=
  "invalid escape sequence\nexpected \x60b\x60, \x60f\x60, \x60n\x60, \x60r\x60, \x60t\x60, " ++
    "\x60u\x60, \x60U\x60, \x60\\\x60, \x60\"\x60"

def hexEscape (count : Nat) (label : String) : Reading Char := do
  let digits := ((← ahead).takeWhile Text.isHexDigit).take count
  if digits.length != count then fault label
  else match Text.scalar? (Text.digitsValue 16 digits) with
    | none => fault (label ++ "\nvalue is out of range")
    | some character =>
        take count
        return character

def escape : Reading Char := do
  let character ← peek
  take 1
  match character with
  | some 'b' => return '\x08'
  | some 'f' => return '\x0c'
  | some 'n' => return '\n'
  | some 'r' => return '\r'
  | some 't' => return '\t'
  | some '\\' => return '\\'
  | some '"' => return '"'
  | some 'u' => hexEscape 4 "invalid unicode 4-digit hex code"
  | some 'U' => hexEscape 8 "invalid unicode 8-digit hex code"
  | _ => fault badEscape

def lineCharacters (quote : Char) (label : String) : Nat → List Char → Reading (List Char)
  | 0, _ => fault label
  | count + 1, read => do
      match ← ahead with
      | [] => fault label
      | character :: rest =>
          if character == quote then
            take 1
            return read
          else if character == '\\' && quote == '"' then
            if rest.isEmpty then fault label
            else
              take 1
              let escaped ← escape
              lineCharacters quote label count (escaped :: read)
          else if isPlain character then
            take 1
            lineCharacters quote label count (character :: read)
          else fault label

/-- The number of characters of a backslash that hides a line end, with the blanks and line ends
behind it; none where the backslash does something else. -/
def hiddenLineEnd (behind : List Char) : Nat :=
  let spaces := (behind.takeWhile fun character => character == ' ' || character == '\t').length
  if lineEndLength (behind.drop spaces) == 0 then 0
  else
    let blank := fun character => character == ' ' || character == '\t' || character == '\n'
    let pairs := fun rest : List Char => (rest.zip (rest.drop 1 ++ ['x'])).takeWhile
      fun (character, next) => blank character || (character == '\r' && next == '\n')
    1 + (pairs behind).length

def goesOnInside (quote : Char) (rest : List Char) : Bool :=
  match rest with
  | [] => false
  | character :: _ =>
      character != quote && (isPlain character || lineEndLength rest != 0)

/-- The characters of a string on several lines up to its closing quotes, last first. The number
bounds them. Up to two quotes stand for themselves. -/
def blockCharacters (quote : Char) (label : String) : Nat → List Char → Reading (List Char)
  | 0, _ => fault label
  | count + 1, read => do
      let rest ← ahead
      match rest with
      | [] => fault label
      | character :: behind =>
          if character == quote then
            let quotes := (rest.takeWhile (· == quote)).length
            if 3 ≤ quotes then
              let inside := min (quotes - 3) 2
              take (inside + 3)
              return List.replicate inside quote ++ read
            else if goesOnInside quote (rest.drop quotes) then
              take quotes
              blockCharacters quote label count (List.replicate quotes quote ++ read)
            else fault label
          else if character == '\\' && quote == '"' then
            let hidden := hiddenLineEnd behind
            if hidden != 0 then
              take hidden
              blockCharacters quote label count read
            else if behind.isEmpty then fault label
            else
              take 1
              let escaped ← escape
              blockCharacters quote label count (escaped :: read)
          else if lineEndLength rest != 0 then
            take (lineEndLength rest)
            blockCharacters quote label count ('\n' :: read)
          else if isPlain character then
            take 1
            blockCharacters quote label count (character :: read)
          else fault label

def brokenString (quote : Char) (several : Bool) : String :=
  "invalid " ++ (if several then "multiline " else "") ++
    (if quote == '"' then "basic string" else "literal string")

def lineString : Reading String := do
  let rest ← ahead
  let quote := rest.headD '"'
  take 1
  let read ← lineCharacters quote (brokenString quote false) (rest.length + 1) []
  return String.ofList read.reverse

def string : Reading String := do
  let rest ← ahead
  let quote := rest.headD '"'
  if [quote, quote, quote].isPrefixOf rest then
    take 3
    take (lineEndLength (rest.drop 3))
    let read ← blockCharacters quote (brokenString quote true) (rest.length + 1) []
    return String.ofList read.reverse
  else lineString

end UiContract.Toml
