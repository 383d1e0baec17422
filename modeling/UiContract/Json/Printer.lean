import UiContract.Text.Pieces
import UiContract.Text.Quoted

/-!
Documents and how they are written as JSON texts: every item and entry on a line of its own, two blanks
further in than what it belongs to, entries in the order in which they are given.
-/
namespace UiContract.Json

inductive Document where
  | null
  | boolean (value : Bool)
  | natural (value : Nat)
  | text (value : String)
  | array (items : List Document)
  | object (entries : List (String × Document))
deriving Repr

def writtenChar (character : Char) : String :=
  if character == '"' then "\\\""
  else if character == '\\' then "\\\\"
  else if character == '\n' then "\\n"
  else if character == '\r' then "\\r"
  else if character == '\t' then "\\t"
  else if character == '\x08' then "\\b"
  else if character == '\x0c' then "\\f"
  else if character.toNat < 0x20 then
    "\\u00" ++ (if character.toNat < 0x10 then "0" else "") ++ Text.hexText character.toNat
  else String.ofList [character]

def writtenText (text : String) : String :=
  "\"" ++ String.join (text.toList.map writtenChar) ++ "\""

def lineAt (depth : Nat) : String :=
  "\n" ++ String.ofList (List.replicate (2 * depth) ' ')

def bracketed (opening closing : String) (depth : Nat) (parts : List String) : String :=
  if parts.isEmpty then opening ++ closing
  else
    opening ++ lineAt (depth + 1) ++ Text.join ("," ++ lineAt (depth + 1)) parts ++ lineAt depth ++
      closing

namespace Document

mutual

def write (depth : Nat) : Document → String
  | null => "null"
  | boolean value => toString value
  | natural value => toString value
  | text value => writtenText value
  | array items => bracketed "[" "]" depth (writeItems (depth + 1) items)
  | object entries => bracketed "\x7b" "\x7d" depth (writeEntries (depth + 1) entries)

def writeItems (depth : Nat) : List Document → List String
  | [] => []
  | item :: rest => write depth item :: writeItems depth rest

def writeEntries (depth : Nat) : List (String × Document) → List String
  | [] => []
  | (key, value) :: rest =>
      (writtenText key ++ ": " ++ write depth value) :: writeEntries depth rest

end

def pretty (document : Document) : String := write 0 document

end Document

end UiContract.Json
