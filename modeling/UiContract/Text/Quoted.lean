import UiContract.Text.Hidden

/-!
Texts in double quotes, so that every character can be told: quotes, backslashes and line ends are
escaped, and so are the characters that are not shown.
-/
namespace UiContract.Text

def hexText (number : Nat) : String :=
  String.ofList (Nat.toDigits 16 number)

def quotedChar (character : Char) : String :=
  if character == '\t' then "\\t"
  else if character == '\r' then "\\r"
  else if character == '\n' then "\\n"
  else if character == '"' then "\\\""
  else if character == '\\' then "\\\\"
  else if character.toNat == 0 then "\\0"
  else if isHidden character then "\\u\x7b" ++ hexText character.toNat ++ "\x7d"
  else String.ofList [character]

def quoted (text : String) : String :=
  "\"" ++ String.join (text.toList.map quotedChar) ++ "\""

def quotedList (texts : List String) : String :=
  "[" ++ String.intercalate ", " (texts.map quoted) ++ "]"

end UiContract.Text
