import UiContract.Import.Extractor
import UiContract.Text.Quoted

/-!
One file of the walk over the imports: where it is, how it is shown, what could be read of it (`load`), and
its imports once they have been asked for (`imports`). Asking again gives the same answer.
-/
namespace UiContract

/-- What could be read of a file. Assets need not be texts. -/
inductive Content where
  | text (text : String)
  | binary
  | unreadable (reason : String)
deriving DecidableEq, Repr

abbrev FileImports := Except String (List ImportEdge)

structure SourceFile where
  path : Path
  relativePath : String
  language : Language
  content : Content
  imports : Option FileImports := none

namespace SourceFile

def contentOf (language : Language) : Except FileError (List UInt8) → Content
  | .ok bytes => match Text.decode? bytes with
      | some characters => .text (String.ofList characters)
      | none => if language.isScript then .unreadable "source is not valid UTF-8" else .binary
  | .error reason => .unreadable ("cannot read file: " ++ reason.message)

def load (tree : FileTree) (root path : Path) : SourceFile :=
  let language := Language.ofPath path
  { path, language, relativePath := path.relativeTo root,
    content := contentOf language (tree.readBytes path) }

def ofText (root path : Path) (text : String) : SourceFile :=
  { path, language := Language.ofPath path, relativePath := path.relativeTo root,
    content := .text text }

def text? (file : SourceFile) : Option String :=
  match file.content with
  | .text text => some text
  | _ => none

def declaredImports (file : SourceFile) (resolver : Resolver) (tree : FileTree) : FileImports :=
  match file.content with
  | .text text => match ImportEdge.extract resolver tree file.path text with
      | .ok edges => .ok edges
      | .error error => .error error.message
  | .binary => .ok []
  | .unreadable reason => if file.language.isScript then .error reason else .ok []

def readImports (file : SourceFile) (resolver : Resolver) (tree : FileTree) :
    SourceFile × FileImports :=
  match file.imports with
  | some known => (file, known)
  | none =>
      let read := file.declaredImports resolver tree
      ({ file with imports := some read }, read)

def knownImports (file : SourceFile) : List ImportEdge :=
  match file.imports with
  | some (.ok edges) => edges
  | _ => []

def failure? (file : SourceFile) : Option String :=
  match file.imports with
  | some (.error reason) => some reason
  | _ => none

def describe (file : SourceFile) : String :=
  "SourceFile \x7b path: " ++ Text.quoted file.path.text ++ ", language: " ++ file.language.title ++
    ", .. \x7d"

end SourceFile

end UiContract
