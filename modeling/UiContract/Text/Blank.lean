/-!
Blank characters and trimming. A blank is a character of Unicode's White_Space property, and every
trim of this library cuts exactly these from the ends of a text.
-/
namespace UiContract.Text

def isBlank (character : Char) : Bool :=
  let code := character.toNat
  (9 ≤ code && code ≤ 13) || code == 0x20 || code == 0x85 || code == 0xA0 || code == 0x1680 ||
    (0x2000 ≤ code && code ≤ 0x200A) || code == 0x2028 || code == 0x2029 || code == 0x202F ||
    code == 0x205F || code == 0x3000

def dropEnd (test : Char → Bool) (characters : List Char) : List Char :=
  (characters.reverse.dropWhile test).reverse

def dropEnds (test : Char → Bool) (characters : List Char) : List Char :=
  dropEnd test (characters.dropWhile test)

def trim (text : String) : String :=
  String.ofList (dropEnds isBlank text.toList)

def isBlankText (text : String) : Bool :=
  text.toList.all isBlank

end UiContract.Text
