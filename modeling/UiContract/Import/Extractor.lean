import UiContract.Import.Declaration
import UiContract.Import.Resolver
import UiContract.Script.Parse

/-!
The imports of a source file (`extract`): its declarations with the files that their specifiers lead to. A
file that is no source file has none, and a text that cannot be read is an error with the line of the fault
(`first_error_line`).
-/
namespace UiContract

structure SyntaxError where
  line : Nat
  language : Language
deriving DecidableEq, Repr

def SyntaxError.message (error : SyntaxError) : String :=
  "Parse error: syntax error near line " ++ toString error.line ++ " (" ++ error.language.name ++ ")"

namespace ImportEdge

/-- The name that a package or a missing module goes by: its last proper piece without what follows
a `?` or `#`. -/
def specifierName? (specifier : String) : Option String := do
  let path := Text.before (fun character => character == '?' || character == '#') specifier.toList
  let proper := (Text.pieces (· == '/') path).reverse.find? fun piece =>
    piece != [] && piece != ['.'] && piece != ['.', '.']
  let name ← (Path.mk (String.ofList (← proper))).moduleName?
  some (String.ofList name)

def moduleName? (resolved : Option Path) (specifier : String) : Option String :=
  match resolved.bind Path.moduleName? with
  | some name => some (String.ofList name)
  | none => specifierName? specifier

def bind (moduleName : Option String) : WrittenBinding → ImportBinding
  | .defaultExport localName => .defaultExport localName (moduleName.getD localName)
  | .named imported localName => .named imported localName
  | .wholeModule localName => .wholeModule localName

def ofDeclaration (resolver : Resolver) (tree : FileTree) (importer : Path)
    (declaration : ImportDeclaration) : ImportEdge :=
  let resolved := (resolver.resolve tree importer declaration.specifier).file?
  let name := moduleName? resolved declaration.specifier
  { importer, resolved, specifier := declaration.specifier,
    bindings := declaration.bindings.map (bind name), typeOnly := declaration.typeOnly,
    kind := declaration.kind, line := declaration.line }

def extract (resolver : Resolver) (tree : FileTree) (importer : Path) (text : String) :
    Except SyntaxError (List ImportEdge) :=
  let language := Language.ofPath importer
  if !language.isScript then .ok []
  else
    let parsed := Script.parse language text.toList
    if parsed.broken then .error ⟨parsed.firstFailureLine.getD 1, language⟩
    else .ok ((ImportDeclaration.inOrder parsed).map (ofDeclaration resolver tree importer))

end ImportEdge

end UiContract
