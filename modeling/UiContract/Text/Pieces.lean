/-!
Texts cut at separators and put together again. `pieces` keeps empty pieces, so that joining the
pieces with the separator gives the text back.
-/
namespace UiContract.Text

def pieces (separates : Char → Bool) : List Char → List (List Char)
  | [] => [[]]
  | character :: rest =>
      if separates character then [] :: pieces separates rest
      else match pieces separates rest with
        | [] => [[character]]
        | first :: others => (character :: first) :: others

def joinPieces (separator : List Char) : List (List Char) → List Char
  | [] => []
  | [piece] => piece
  | piece :: rest => piece ++ separator ++ joinPieces separator rest

def join (separator : String) : List String → String
  | [] => ""
  | [text] => text
  | text :: rest => text ++ separator ++ join separator rest

def afterStart? : List Char → List Char → Option (List Char)
  | [], rest => some rest
  | _ :: _, [] => none
  | expected :: more, character :: rest =>
      if expected == character then afterStart? more rest else none

def startsWith (text start : String) : Bool :=
  (afterStart? start.toList text.toList).isSome

def replaceChar (text : String) (old new : Char) : String :=
  String.ofList (text.toList.map fun character => if character == old then new else character)

def before (test : Char → Bool) (characters : List Char) : List Char :=
  characters.takeWhile fun character => !test character

def afterLast (test : Char → Bool) (characters : List Char) : List Char :=
  (before test characters.reverse).reverse

def lowerAscii (text : String) : String :=
  String.ofList (text.toList.map Char.toLower)

def padRight (width : Nat) (text : String) : String :=
  text ++ String.ofList (List.replicate (width - text.length) ' ')

/-- How often the piece occurs from here on, added to the count so far, from the left and without
overlaps. An occurrence is passed over as a whole; the first number says what is left of one. -/
def countFrom (piece : List Char) : Nat → Nat → List Char → Nat
  | count, _, [] => count
  | count, skip + 1, _ :: rest => countFrom piece count skip rest
  | count, 0, character :: rest =>
      if (afterStart? piece (character :: rest)).isSome then
        countFrom piece (count + 1) (piece.length - 1) rest
      else countFrom piece count 0 rest

def occurrences (piece text : List Char) : Nat :=
  countFrom piece 0 0 text

end UiContract.Text
