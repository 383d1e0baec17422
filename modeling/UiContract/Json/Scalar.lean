import UiContract.Double
import UiContract.Json.Input
import UiContract.Text.Hex
import UiContract.Text.Utf8
import UiContract.Wording

/-!
Words, numbers and strings of JSON texts. Values that are not looked at are read by rules of their own:
their numbers may be out of range and their strings may hold half of a surrogate pair.
-/
namespace UiContract.Json

def endInValue : String := "EOF while parsing a value"

def endInString : String := "EOF while parsing a string"

def noValue : String := "expected value"

def badNumber : String := "invalid number"

def word : List Char → Reading Unit
  | [] => return
  | expected :: rest => do
      match ← next with
      | none => faultHere endInValue
      | some character =>
          if character == expected then word rest else faultHere "expected ident"

inductive Number where
  | natural (value : Nat)
  | negative (value : Int)
  | double (value : Double)
deriving DecidableEq, Repr

def Number.found : Number → String
  | natural value => Wording.integer value
  | negative value => Wording.integer value
  | double value => "floating point " ++ Wording.marked value.compactText

def digits : Reading (List Char) := do
  let read := (← getThe Input).rest.takeWhile Char.isDigit
  modifyThe Input (Input.advance read.length)
  return read

def digitsValue (digits : List Char) : Nat :=
  digits.foldl (fun value digit => 10 * value + (digit.toNat - '0'.toNat)) 0

/-- The digits before the decimal point. A zero stands alone. -/
def wholeDigits (ending : String) : Reading (List Char) := do
  match ← next with
  | none => faultHere ending
  | some '0' =>
      if (← peek).any Char.isDigit then faultAhead badNumber else return ['0']
  | some first =>
      if first.isDigit then return first :: (← digits) else faultHere badNumber

def fractionDigits (ending : String) : Reading (List Char) := do
  if (← peek) == some '.' then
    step
    let read ← digits
    if read == [] then
      match ← peek with
      | none => faultAhead ending
      | some _ => faultAhead badNumber
    else return read
  else return []

def exponent? (ending : String) : Reading (Option Int) := do
  let mark ← peek
  if mark == some 'e' || mark == some 'E' then
    step
    let sign ← peek
    if sign == some '+' || sign == some '-' then step
    match ← next with
    | none => faultHere ending
    | some first =>
        if first.isDigit then
          let value : Int := digitsValue (first :: (← digits))
          return some (if sign == some '-' then -value else value)
        else faultHere badNumber
  else return none

def numberOf (negative : Bool) (whole fraction : List Char) (exponent : Option Int) :
    Reading Number := do
  let value := digitsValue whole
  if fraction == [] && exponent.isNone && value < UInt64.size && !(negative && value == 0) &&
      !(negative && 1 <<< 63 < value) then
    return if negative then .negative (-value) else .natural value
  else
    let read := Double.ofDecimal negative (digitsValue (whole ++ fraction))
      (exponent.getD 0 - fraction.length)
    match read with
    | .infinite _ => faultHere "number out of range"
    | _ => return .double read

def number : Reading Number := do
  let negative := (← peek) == some '-'
  if negative then step
  let whole ← wholeDigits endInValue
  let fraction ← fractionDigits endInValue
  let exponent ← exponent? endInValue
  numberOf negative whole fraction exponent

def skipNumber : Reading Unit := do
  if (← peek) == some '-' then step
  let _ ← wholeDigits badNumber
  let _ ← fractionDigits badNumber
  let _ ← exponent? badNumber

def Input.behindFourBytes (input : Input) : Input :=
  let size := fun count => Text.byteSize (input.rest.take count)
  let whole := ((List.range 5).reverse.find? fun count => size count ≤ 4).getD 0
  let after := input.advance whole
  { after with place := { after.place with column := after.place.column + (4 - size whole) } }

def hexEscape : Reading Nat := do
  let input ← getThe Input
  let four := input.rest.take 4
  if Text.byteSize four < 4 then
    set (input.advance four.length)
    faultHere endInString
  else if four.all Text.isHexDigit then
    set (input.advance 4)
    return Text.digitsValue 16 four
  else
    set input.behindFourBytes
    faultHere "invalid escape"

def nextInString : Reading Char := do
  match ← next with
  | some character => return character
  | none => faultHere endInString

def pairSign (expected : Char) : Reading Unit := do
  let character ← nextInString
  if character != expected then faultHere "unexpected end of hex escape"

def unicodeEscape : Reading Char := do
  let first ← hexEscape
  let lone := "lone leading surrogate in hex escape"
  if 0xDC00 ≤ first && first ≤ 0xDFFF then faultHere lone
  else if first < 0xD800 || 0xDBFF < first then return Char.ofNat first
  else
    pairSign '\\'
    pairSign 'u'
    let second ← hexEscape
    if second < 0xDC00 || 0xDFFF < second then faultHere lone
    else return Char.ofNat ((first - 0xD800) * 0x400 + (second - 0xDC00) + 0x10000)

def escape : Reading Char := do
  match ← nextInString with
  | '"' => return '"'
  | '\\' => return '\\'
  | '/' => return '/'
  | 'b' => return '\x08'
  | 'f' => return '\x0c'
  | 'n' => return '\n'
  | 'r' => return '\r'
  | 't' => return '\t'
  | 'u' => unicodeEscape
  | _ => faultHere "invalid escape"

def controlInString : String :=
  "control character (\\u0000-\\u001F) found while parsing a string"

def stringCharacters : Nat → List Char → Reading (List Char)
  | 0, _ => faultHere endInString
  | count + 1, read => do
      match ← nextInString with
      | '"' => return read
      | '\\' =>
          let character ← escape
          stringCharacters count (character :: read)
      | character =>
          if character.toNat < 0x20 then faultHere controlInString
          else stringCharacters count (character :: read)

def stringRest : Reading String := do
  let read ← stringCharacters (← remaining) []
  return String.ofList read.reverse

def skipString : Nat → Reading Unit
  | 0 => faultHere endInString
  | count + 1 => do
      if (← peek).any fun character => character.toNat < 0x20 then faultHere controlInString
      else match ← nextInString with
        | '"' => return
        | '\\' =>
            match ← nextInString with
            | 'u' =>
                let _ ← hexEscape
                skipString count
            | character =>
                if "\"\\/bfnrt".toList.contains character then skipString count
                else faultHere "invalid escape"
        | _ => skipString count

end UiContract.Json
