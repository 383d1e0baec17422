import UiContract.Text.Pieces

/-!
The words in which decoding says what it expected and what it found. Tables of every format are
decoded with the same words.
-/
namespace UiContract.Wording

def marked (name : String) : String := "\x60" ++ name ++ "\x60"

def expectedNames : List String → String
  | [] => "there are no names"
  | [name] => "expected " ++ marked name
  | [first, second] => "expected " ++ marked first ++ " or " ++ marked second
  | names => "expected one of " ++ Text.join ", " (names.map marked)

def unknownField (name : String) (known : List String) : String :=
  "unknown field " ++ marked name ++ ", " ++ expectedNames known

def unknownVariant (name : String) (known : List String) : String :=
  "unknown variant " ++ marked name ++ ", " ++ expectedNames known

def missingField (name : String) : String := "missing field " ++ marked name

def duplicateField (name : String) : String := "duplicate field " ++ marked name

def invalidType (found expected : String) : String :=
  "invalid type: " ++ found ++ ", expected " ++ expected

def invalidValue (found expected : String) : String :=
  "invalid value: " ++ found ++ ", expected " ++ expected

def invalidLength (found : Nat) (expected : String) (count : Nat) : String :=
  "invalid length " ++ toString found ++ ", expected " ++ expected ++ " with " ++ toString count ++
    (if count == 1 then " element" else " elements")

def integer (value : Int) : String := "integer " ++ marked (toString value)

def boolean (value : Bool) : String := "boolean " ++ marked (toString value)

end UiContract.Wording
