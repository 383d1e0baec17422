import UiContract.Script.Cursor
import UiContract.Text.Hex

/-!
The tokens of source files: words, numbers, string literals and regular expressions. Each is given
by the number of characters that it takes at the front of a text, none where the text does not begin
with one.
-/
namespace UiContract.Script

def countWhile (test : Char → Bool) (characters : List Char) : Nat :=
  (characters.takeWhile test).length

def unicodeEscape? (characters : List Char) : Option Nat :=
  match characters with
  | '{' :: rest =>
      let digits := countWhile Text.isHexDigit rest
      if 0 < digits && rest[digits]? == some '}' then some (digits + 2) else none
  | _ => if 4 ≤ countWhile Text.isHexDigit characters then some 4 else none

def stringEscape? (characters : List Char) : Option Nat :=
  match characters with
  | [] => none
  | 'u' :: rest => (unicodeEscape? rest).map (· + 1)
  | 'x' :: rest => if 2 ≤ countWhile Text.isHexDigit rest then some 3 else none
  | '\r' :: rest =>
      some (if rest.head? == some '\n' || rest.head? == some '\u2028' ||
        rest.head? == some '\u2029' then 2 else 1)
  | character :: _ =>
      if '0' ≤ character && character ≤ '7' then
        some (min 3 (countWhile (fun digit => '0' ≤ digit && digit ≤ '7') characters))
      else some 1

def isSign (character : Char) : Bool :=
  (":;`\"'@#.,|^&<=>+-*/\\%?!~()[]\x7b\x7d".toList).contains character

def isWordCharacter (character : Char) : Bool :=
  0x20 ≤ character.toNat && !isSpace character && !isSign character

/-- The length of the word at the front, escaped characters counted as they are written. The first
argument counts characters of an escape that are passed over. -/
def wordLength : Nat → List Char → Nat
  | _, [] => 0
  | skipped + 1, _ :: rest => 1 + wordLength skipped rest
  | 0, character :: rest =>
      if character == '\\' then match rest with
        | 'u' :: more => match unicodeEscape? more with
            | some length => 1 + wordLength (length + 1) rest
            | none => 0
        | _ => 0
      else if isWordCharacter character then 1 + wordLength 0 rest
      else 0

/-- The word at the front, empty where there is none. A word does not begin with a digit. -/
def wordAt (characters : List Char) : List Char :=
  match characters with
  | [] => []
  | character :: _ =>
      if character.isDigit then [] else characters.take (wordLength 0 characters)

def beginsWord (characters : List Char) : Bool :=
  wordAt characters != []

def digitsLength (isDigit : Char → Bool) : List Char → Nat
  | [] => 0
  | digit :: rest =>
      if isDigit digit then 1 + digitsLength isDigit rest
      else if digit == '_' && rest.head?.any isDigit then 1 + digitsLength isDigit rest
      else 0

def numeralLength (isDigit : Char → Bool) (characters : List Char) : Nat :=
  if characters.head?.any isDigit then digitsLength isDigit characters else 0

def exponentLength (characters : List Char) : Nat :=
  match characters with
  | mark :: sign :: rest =>
      if mark == 'e' || mark == 'E' then
        if sign == '+' || sign == '-' then
          match numeralLength Char.isDigit rest with
          | 0 => 0
          | digits => digits + 2
        else match numeralLength Char.isDigit (sign :: rest) with
          | 0 => 0
          | digits => digits + 1
      else 0
  | _ => 0

def basedLength (isDigit : Char → Bool) (characters : List Char) : Nat :=
  match numeralLength isDigit characters with
  | 0 => 0
  | digits => digits + 2 + (if characters[digits]? == some 'n' then 1 else 0)

def decimalLength (characters : List Char) : Nat :=
  let whole := numeralLength Char.isDigit characters
  let behind := characters.drop whole
  match behind with
  | '.' :: rest =>
      let fraction := numeralLength Char.isDigit rest
      if whole == 0 && fraction == 0 then 0
      else whole + 1 + fraction + exponentLength (rest.drop fraction)
  | 'n' :: _ => if whole == 0 then 0 else whole + 1
  | _ => if whole == 0 then 0 else whole + exponentLength behind

def numberLength (characters : List Char) : Nat :=
  let based := match characters with
    | '0' :: mark :: rest =>
        if mark == 'x' || mark == 'X' then basedLength Text.isHexDigit rest
        else if mark == 'b' || mark == 'B' then
          basedLength (fun digit => digit == '0' || digit == '1') rest
        else if mark == 'o' || mark == 'O' then
          basedLength (fun digit => '0' ≤ digit && digit ≤ '7') rest
        else 0
    | _ => 0
  if based == 0 then decimalLength characters else based

inductive StringEnd where
  | closed (length : Nat)
  | broken (length : Nat)
deriving DecidableEq, Repr

/-- Reads a string literal behind its opening quote. The first number counts characters of an escape
that are passed over, the second the characters read. -/
def stringEnd (quote : Char) : Nat → Nat → List Char → StringEnd
  | _, count, [] => .broken count
  | skipped + 1, count, _ :: rest => stringEnd quote skipped (count + 1) rest
  | 0, count, character :: rest =>
      if character == quote then .closed (count + 1)
      else if character == '\\' then match stringEscape? rest with
        | some length => stringEnd quote length (count + 1) rest
        | none => .broken count
      else if character == '\n' || character == '\r' then .broken count
      else stringEnd quote 0 (count + 1) rest

/-- The length of a regular expression behind its opening slash, the closing slash included. Inside
brackets a slash stands for itself, and after a backslash every character does. -/
def patternLength? (inBrackets escaped : Bool) (count : Nat) : List Char → Option Nat
  | [] => none
  | character :: rest =>
      if character == '\n' then none
      else if escaped then patternLength? inBrackets false (count + 1) rest
      else if character == '\\' then patternLength? inBrackets true (count + 1) rest
      else if inBrackets then patternLength? (character != ']') false (count + 1) rest
      else if character == '[' then patternLength? true false (count + 1) rest
      else if character == '/' then (if count == 0 then none else some (count + 1))
      else patternLength? false false (count + 1) rest

structure Word where
  text : List Char
  line : Nat
deriving DecidableEq, Repr

def anyWord : Reading Word := do
  skip
  let text := wordAt (← ahead)
  if text == [] then fail
  else
    let line ← currentLine
    take text.length
    return ⟨text, line⟩

def theWord (text : String) : Reading Word := do
  skip
  let word := wordAt (← ahead)
  if word == text.toList then
    let line ← currentLine
    take word.length
    return ⟨word, line⟩
  else fail

def theWord? (text : String) : Reading Bool := do
  skip
  let word := wordAt (← ahead)
  if word == text.toList then
    take word.length
    return true
  else return false

def wordIf (holds : Bool) (text : String) : Reading Bool :=
  if holds then theWord? text else return false

def upcomingWord : Reading String := do
  skip
  return String.ofList (wordAt (← ahead))

def behindWord : Reading (List Char) := do
  skip
  let rest ← ahead
  return afterGap (rest.drop (wordAt rest).length)

def stringLiteral : Reading Word := do
  skip
  let rest ← ahead
  match rest with
  | quote :: behind =>
      if quote == '"' || quote == '\'' then
        match stringEnd quote 0 0 behind with
        | .closed length =>
            let line ← currentLine
            take (length + 1)
            return ⟨rest.take (length + 1), line⟩
        | .broken length =>
            take (length + 1)
            fail
      else fail
  | [] => fail

end UiContract.Script
