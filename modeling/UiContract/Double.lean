/-!
Numbers with a fraction. A numeral stands for the nearest number that has a significand of at most 53
binary digits and an exponent of at least -1074, and such a number is written with the fewest decimal
digits that lead back to it.
-/
namespace UiContract

/-- A number with a fraction. A finite one is `significand * 2 ^ exponent` with its sign. -/
inductive Double where
  | finite (negative : Bool) (significand : Nat) (exponent : Int)
  | infinite (negative : Bool)
  | notANumber
deriving DecidableEq, Repr

namespace Double

def powerFraction (base : Nat) (exponent : Int) : Nat × Nat :=
  if exponent < 0 then (1, Nat.pow base exponent.natAbs) else (Nat.pow base exponent.natAbs, 1)

def nearest (numerator denominator : Nat) : Nat :=
  let quotient := numerator / denominator
  let twice := 2 * (numerator % denominator)
  if twice < denominator || (twice == denominator && quotient % 2 == 0) then quotient
  else quotient + 1

def highestBit (numerator denominator : Nat) : Int :=
  let guess : Int := numerator.log2 - denominator.log2
  let (up, down) := powerFraction 2 guess
  if denominator * up ≤ numerator * down then guess else guess - 1

/-- The significand and the exponent of the number nearest to a fraction, none where that is out of
range. -/
def round? (numerator denominator : Nat) : Option (Nat × Int) :=
  if numerator == 0 then some (0, 0)
  else
    let exponent := max (highestBit numerator denominator - 52) (-1074)
    let (up, down) := powerFraction 2 exponent
    let significand := nearest (numerator * down) (denominator * up)
    let (significand, exponent) :=
      if significand == 1 <<< 53 then (1 <<< 52, exponent + 1) else (significand, exponent)
    if 971 < exponent then none else some (significand, exponent)

def roundDecimal? (digits : Nat) (exponent : Int) : Option (Nat × Int) :=
  let length : Int := (Nat.toDigits 10 digits).length
  if digits == 0 || exponent + length < -400 then some (0, 0)
  else if 400 < exponent + length then none
  else
    let (up, down) := powerFraction 10 exponent
    round? (digits * up) down

def ofDecimal (negative : Bool) (digits : Nat) (exponent : Int) : Double :=
  match roundDecimal? digits exponent with
  | some (significand, exponent) => finite negative significand exponent
  | none => infinite negative

/-- The place of the decimal point in a positive fraction: as many digits stand before it, or as many
zeros follow it where the number is negative. -/
def pointPlace (numerator denominator : Nat) : Int :=
  if denominator ≤ numerator then (Nat.toDigits 10 (numerator / denominator)).length
  else
    let zeros := ((List.range 400).find? fun count =>
      denominator ≤ numerator * Nat.pow 10 (count + 1)).getD 400
    0 - (zeros : Int)

/-- Of two whole numbers next to each other, the one nearer to a fraction that lies between them
comes first. -/
def nearerFirst (numerator denominator : Nat) : List Nat :=
  let low := numerator / denominator
  if nearest numerator denominator == low then [low, low + 1] else [low + 1, low]

def shortestDigits (significand : Nat) (exponent : Int) : List Char × Int :=
  let (up, down) := powerFraction 2 exponent
  let numerator := significand * up
  let place := pointPlace numerator down
  let found := (List.range 17).findSome? fun count : Nat =>
    let unit := place - Int.ofNat (count + 1)
    let (unitUp, unitDown) := powerFraction 10 unit
    ((nearerFirst (numerator * unitDown) (down * unitUp)).find? fun digits =>
      roundDecimal? digits unit == some (significand, exponent)).map fun digits => (digits, unit)
  match found with
  | some (digits, unit) =>
      let written := Nat.toDigits 10 digits
      ((written.reverse.dropWhile (· == '0')).reverse, unit + written.length)
  | none => (Nat.toDigits 10 (significand * up / down), place)

def zeros (count : Nat) : List Char := List.replicate count '0'

def plainDigits (digits : List Char) (place : Int) : List Char :=
  if place ≤ 0 then ['0', '.'] ++ zeros place.natAbs ++ digits
  else
    let whole := place.toNat
    if digits.length ≤ whole then digits ++ zeros (whole - digits.length) ++ ['.', '0']
    else digits.take whole ++ '.' :: digits.drop whole

def scientificDigits (digits : List Char) (place : Int) : List Char :=
  let fraction := match digits with
    | first :: rest => if rest == [] then [first] else first :: '.' :: rest
    | [] => []
  fraction ++ 'e' :: (toString (place - 1)).toList

def textWith (write : List Char → Int → List Char) : Double → String
  | finite negative significand exponent =>
      let digits := if significand == 0 then ['0', '.', '0'] else
        let (digits, place) := shortestDigits significand exponent
        write digits place
      (if negative then "-" else "") ++ String.ofList digits
  | infinite negative => if negative then "-inf" else "inf"
  | notANumber => "NaN"

def plainText : Double → String := textWith plainDigits

def compactText : Double → String :=
  textWith fun digits place =>
    if -5 < place && place ≤ 16 then plainDigits digits place else scientificDigits digits place

end Double

end UiContract
