/-!
Digits of bases up to sixteen, and the characters that numbers stand for.
-/
namespace UiContract.Text

def hexDigit? (character : Char) : Option Nat :=
  if character.isDigit then some (character.toNat - '0'.toNat)
  else if 'a' ≤ character && character ≤ 'f' then some (character.toNat - 'a'.toNat + 10)
  else if 'A' ≤ character && character ≤ 'F' then some (character.toNat - 'A'.toNat + 10)
  else none

def isHexDigit (character : Char) : Bool := (hexDigit? character).isSome

def digitsValue (base : Nat) (digits : List Char) : Nat :=
  digits.foldl (fun value digit => base * value + (hexDigit? digit).getD 0) 0

def scalar? (code : Nat) : Option Char :=
  if 0x10FFFF < code || (0xD800 ≤ code && code ≤ 0xDFFF) then none else some (Char.ofNat code)

end UiContract.Text
