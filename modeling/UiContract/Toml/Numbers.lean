import UiContract.Toml.Strings

/-!
Numbers, dates and times. What begins with a digit or a sign is tried as a date or a time, as a number
with a fraction and as an integer, in this order.
-/
namespace UiContract.Toml

/-- What a scan at the front of a text found: nothing of its kind, something of a length, or something
of its kind that is wrong some characters further on. -/
inductive Scan where
  | nothing
  | found (length : Nat)
  | wrong (place : Nat) (message : String)
deriving DecidableEq, Repr

def missingDigit (label : String) : String := label ++ "\nexpected digit"

def outOfRange (label : String) : String := label ++ "\nvalue is out of range"

/-- Digits behind the first one, with single underscores between them. The first number is the place of
the text. -/
def moreDigits (isDigit : Char → Bool) (message : String) (place : Nat) : List Char → Scan
  | [] => .found place
  | character :: rest =>
      if isDigit character then moreDigits isDigit message (place + 1) rest
      else if character == '_' then
        if rest.head?.any isDigit then moreDigits isDigit message (place + 1) rest
        else .wrong (place + 1) message
      else .found place

def badInteger : String := "invalid integer"

def badFraction : String := "invalid floating-point number"

def signLength (rest : List Char) : Nat :=
  if rest.head? == some '+' || rest.head? == some '-' then 1 else 0

/-- A decimal integer. A leading zero stands alone. -/
def decimalInteger (rest : List Char) : Scan :=
  let sign := signLength rest
  match rest.drop sign with
  | [] => .nothing
  | first :: more =>
      if first == '0' then .found (sign + 1)
      else if first.isDigit then moreDigits Char.isDigit (missingDigit badInteger) (sign + 1) more
      else .nothing

def anyDigits (first later : String) (place : Nat) (rest : List Char) : Scan :=
  match rest with
  | [] => .wrong place first
  | digit :: more =>
      if digit.isDigit then moreDigits Char.isDigit later (place + 1) more else .wrong place first

def exponentScan (place : Nat) (rest : List Char) : Scan :=
  let sign := signLength rest
  anyDigits badFraction (missingDigit badFraction) (place + sign) (rest.drop sign)

def isExponentMark (character : Option Char) : Bool :=
  character == some 'e' || character == some 'E'

def fractionScan (rest : List Char) : Scan :=
  match decimalInteger rest with
  | .found whole =>
      let behind := rest.drop whole
      if isExponentMark behind.head? then exponentScan (whole + 1) (behind.drop 1)
      else if behind.head? == some '.' then
        let message := missingDigit badFraction
        match anyDigits message (message ++ ", digit") (whole + 1) (behind.drop 1) with
        | .found length =>
            let behind := rest.drop length
            if isExponentMark behind.head? then exponentScan (length + 1) (behind.drop 1)
            else .found length
        | other => other
      else .nothing
  | other => other

def twoDigits (least greatest place : Nat) (label : String) (rest : List Char) : Scan × Nat :=
  let digits := (rest.drop place).take 2
  let value := digits.foldl (fun value digit => 10 * value + (digit.toNat - 48)) 0
  if digits.length != 2 || !digits.all Char.isDigit then (.wrong place label, 0)
  else if value < least || greatest < value then (.wrong place (outOfRange label), 0)
  else (.found (place + 2), value)

def Scan.andThen (scan : Scan) (next : Nat → Scan) : Scan :=
  match scan with
  | found length => next length
  | other => other

def signAt (sign : Char) (place : Nat) (label : String) (rest : List Char) : Scan :=
  if (rest.drop place).head? == some sign then .found (place + 1) else .wrong place label

def timeRest (place : Nat) (label : String) (rest : List Char) : Scan :=
  (twoDigits 0 59 place label rest).1.andThen fun place =>
    (signAt ':' place label rest).andThen fun place =>
      (twoDigits 0 60 place label rest).1.andThen fun place =>
        match rest.drop place with
        | '.' :: behind =>
            let digits := (behind.takeWhile Char.isDigit).length
            .found (if digits == 0 then place else place + 1 + digits)
        | _ => .found place

def timeScan (place : Nat) (label : String) (rest : List Char) : Scan :=
  match (twoDigits 0 23 place label rest).1 with
  | .found behind =>
      if (rest.drop behind).head? == some ':' then timeRest (behind + 1) label rest else .nothing
  | _ => .nothing

def offsetScan (place : Nat) (rest : List Char) : Scan :=
  let label := "invalid time offset"
  match rest.drop place with
  | [] => .found place
  | sign :: _ =>
      if sign == 'Z' || sign == 'z' then .found (place + 1)
      else if sign == '+' || sign == '-' then
        (twoDigits 0 23 (place + 1) label rest).1.andThen fun place =>
          (signAt ':' place label rest).andThen fun place =>
            (twoDigits 0 59 place label rest).1
      else .found place

def daysOf (year month : Nat) : Nat :=
  if month == 2 then
    if year % 4 == 0 && (year % 100 != 0 || year % 400 == 0) then 29 else 28
  else if month == 4 || month == 6 || month == 9 || month == 11 then 30
  else 31

def dateRest (label : String) (rest : List Char) : Scan :=
  let year := (rest.take 4).foldl (fun value digit => 10 * value + (digit.toNat - 48)) 0
  let (monthScan, month) := twoDigits 1 12 5 label rest
  monthScan.andThen fun place =>
    (signAt '-' place label rest).andThen fun place =>
      let (dayScan, day) := twoDigits 1 31 place label rest
      dayScan.andThen fun behind =>
        if daysOf year month < day then .wrong place (outOfRange label) else .found behind

def dateScan (rest : List Char) : Scan :=
  let label := "invalid date-time"
  let year := rest.take 4
  if year.length != 4 || !year.all Char.isDigit || (rest.drop 4).head? != some '-' then .nothing
  else
    (dateRest label rest).andThen fun place =>
      match rest.drop place with
      | mark :: _ =>
          if mark == 'T' || mark == 't' || mark == ' ' then
            match timeScan (place + 1) label rest with
            | .nothing => .found place
            | scan => scan.andThen fun place => offsetScan place rest
          else .found place
      | [] => .found place

def momentScan (rest : List Char) : Scan :=
  match dateScan rest with
  | .nothing => timeScan 0 "invalid time" rest
  | scan => scan

def momentText (characters : List Char) : String :=
  String.ofList (characters.map fun character =>
    if character == ' ' || character == 't' then 'T' else if character == 'z' then 'Z' else character)

def basedScan (isDigit : Char → Bool) (label : String) (rest : List Char) : Scan :=
  match rest.drop 2 with
  | [] => .wrong 2 label
  | first :: more =>
      if isDigit first then moreDigits isDigit (missingDigit label) 3 more else .wrong 2 label

def base? (rest : List Char) : Option (Nat × (Char → Bool) × String) :=
  match rest with
  | '0' :: 'x' :: _ => some (16, Text.isHexDigit, "invalid hexadecimal integer")
  | '0' :: 'o' :: _ =>
      some (8, fun digit => '0' ≤ digit && digit ≤ '7', "invalid octal integer")
  | '0' :: 'b' :: _ => some (2, fun digit => digit == '0' || digit == '1', "invalid binary integer")
  | _ => none

def digitsValue (base : Nat) (characters : List Char) : Nat :=
  Text.digitsValue base (characters.filter Text.isHexDigit)

def integerOf (base skipped length : Nat) : Reading Scalar := do
  let characters := (← ahead).take length
  let magnitude := digitsValue base (characters.drop skipped)
  let negative := characters.head? == some '-'
  if negative && 1 <<< 63 < magnitude then fault "number too small to fit in target type"
  else if !negative && 1 <<< 63 ≤ magnitude then fault "number too large to fit in target type"
  else
    take length
    return .integer (if negative then -magnitude else magnitude)

def fractionOf (length : Nat) : Reading Scalar := do
  let characters := ((← ahead).take length).filter fun character => character != '_'
  let negative := characters.head? == some '-'
  let digits := characters.drop (signLength characters)
  let mantissa := digits.takeWhile fun character => !isExponentMark (some character)
  let exponent := digits.drop (mantissa.length + 1)
  let whole := mantissa.takeWhile Char.isDigit
  let fraction := mantissa.drop (whole.length + 1)
  let power : Int := digitsValue 10 exponent
  let value := Double.ofDecimal negative (digitsValue 10 (whole ++ fraction))
    ((if exponent.head? == some '-' then -power else power) - fraction.length)
  if value == .infinite false then fault badFraction
  else
    take length
    return .double value

def specialNumber? (rest : List Char) : Option (Nat × Double) :=
  let sign := signLength rest
  let behind := rest.drop sign
  if "inf".toList.isPrefixOf behind then some (sign + 3, .infinite (rest.head? == some '-'))
  else if "nan".toList.isPrefixOf behind then some (sign + 3, .notANumber)
  else none

def integer : Reading Scalar := do
  let rest ← ahead
  match base? rest with
  | some (base, isDigit, label) =>
      match basedScan isDigit label rest with
      | .found length => integerOf base 2 length
      | .wrong place message => faultBehind place message
      | .nothing => fault label
  | none =>
      match decimalInteger rest with
      | .found length => integerOf 10 0 length
      | .wrong place message => faultBehind place message
      | .nothing => softFaultBehind (signLength rest) badInteger

def number : Reading Scalar := do
  let rest ← ahead
  match momentScan rest with
  | .found length =>
      take length
      return .moment (momentText (rest.take length))
  | .wrong place message => faultBehind place message
  | .nothing =>
      match fractionScan rest with
      | .found length => fractionOf length
      | .wrong place message => faultBehind place message
      | .nothing =>
          match specialNumber? rest with
          | some (length, value) =>
              take length
              return .double value
          | none => integer

end UiContract.Toml
