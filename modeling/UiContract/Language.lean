import UiContract.Path

/-!
The dialects of source files, told by the extension of a file name (`from_path`). Every other file is an
asset, which is a leaf of the import graph and is never parsed.
-/
namespace UiContract

inductive Language where
  | javaScript
  | typeScript
  | tsx
  | asset
deriving DecidableEq, Repr

namespace Language

def ofExtension (extension : List Char) : Language :=
  let lowered := String.ofList (extension.map Char.toLower)
  if lowered == "js" || lowered == "jsx" || lowered == "mjs" || lowered == "cjs" then javaScript
  else if lowered == "ts" || lowered == "mts" || lowered == "cts" then typeScript
  else if lowered == "tsx" then tsx
  else asset

def ofPath (path : Path) : Language :=
  match path.extension? with
  | some extension => ofExtension extension
  | none => asset

def name : Language → String
  | javaScript => "javascript"
  | typeScript => "typescript"
  | tsx => "tsx"
  | asset => "asset"

def title : Language → String
  | javaScript => "JavaScript"
  | typeScript => "TypeScript"
  | tsx => "Tsx"
  | asset => "Asset"

def isScript : Language → Bool
  | asset => false
  | _ => true

end Language

end UiContract
