import UiContract.FileTree
import UiContract.Json.Reader

/-!
Declarative tables: files with JSON texts of a certain type (`read_json_table`). What is wrong with one is
told together with the path of the file.
-/
namespace UiContract

inductive TableError where
  | unreadable (path : Path) (reason : FileError)
  | unparsable (path : Path) (message : String)
deriving DecidableEq, Repr

def TableError.message : TableError → String
  | unreadable path reason => "cannot read " ++ path.text ++ ": " ++ reason.message
  | unparsable path message => "cannot parse " ++ path.text ++ ": " ++ message

def Table.read {α : Type} (reading : Json.Reading α) (tree : FileTree) (path : Path) :
    Except TableError α :=
  match tree.readText path with
  | .error reason => .error (.unreadable path reason)
  | .ok text => match Json.decode reading text with
      | .ok value => .ok value
      | .error message => .error (.unparsable path message)

end UiContract
