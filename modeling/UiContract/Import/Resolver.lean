import UiContract.FileTree
import UiContract.Text.Blank

/-!
From the specifier of an import to a file, as `resolve` does. An alias of the configuration comes first
(`alias_target`), the longest one that ends where a piece of the specifier ends; then `.` and `..` are taken
from the directory of the importing file; everything else is a package. `probe` tries the exact path of a
local candidate first, then the path with each extension, then an index module of the directory.
-/
namespace UiContract

inductive Resolution where
  | local_ (path : Path)
  | unresolved (path : Path)
  | external
deriving DecidableEq, Repr

def Resolution.file? : Resolution → Option Path
  | local_ path => some path
  | unresolved _ => none
  | external => none

structure ResolverSettings where
  projectRoot : Path
  aliases : List (String × String) := []
  extensions : List String := [".ts", ".tsx", ".js", ".jsx"]
deriving Repr

structure Resolver where
  root : Path
  aliases : List (String × Path)
  extensions : List String
deriving Repr

inductive ResolverError where
  | emptyAlias
  | badExtension (extension : String)
deriving DecidableEq, Repr

def ResolverError.message : ResolverError → String
  | emptyAlias => "alias prefix '' must not be empty"
  | badExtension extension => "extension '" ++ extension ++ "' must start with '.'"

namespace Resolver

/-- The order of aliases: longer ones first, those of one length by their text. -/
def aliasOrder (first second : String × Path) : Ordering :=
  (compare second.1.utf8ByteSize first.1.utf8ByteSize).then (compare first.1 second.1)

def aliasTarget (root : Path) (target : String) : Path :=
  let text := Text.dropEnd (· == '/') (Path.dropCurrent target.toList)
  (root.join (String.ofList text)).normalize

def make (settings : ResolverSettings) : Except ResolverError Resolver :=
  if settings.aliases.any fun entry => entry.1 == "" then .error .emptyAlias
  else match settings.extensions.find? fun extension => !Text.startsWith extension "." with
    | some extension => .error (.badExtension extension)
    | none =>
        let root := settings.projectRoot.normalize
        let aliases := settings.aliases.map fun entry => (entry.1, aliasTarget root entry.2)
        .ok { root, extensions := settings.extensions,
              aliases := aliases.mergeSort fun first second => (aliasOrder first second).isLE }

def clean (specifier : String) : List Char :=
  Text.before (fun character => character == '?' || character == '#')
    (Text.dropEnds Text.isBlank specifier.toList)

def isRelative (specifier : List Char) : Bool :=
  specifier == ['.'] || specifier == ['.', '.'] || ['.', '/'].isPrefixOf specifier ||
    ['.', '.', '/'].isPrefixOf specifier

def afterAlias? (shortcut : String) (specifier : List Char) : Option (List Char) :=
  match Text.afterStart? shortcut.toList specifier with
  | none => none
  | some rest =>
      if shortcut.toList.getLast? == some '/' || rest == [] || rest.head? == some '/' then
        some (rest.dropWhile (· == '/'))
      else none

def aliased? (specifier : List Char) : List (String × Path) → Option Path
  | [] => none
  | (shortcut, target) :: others =>
      match afterAlias? shortcut specifier with
      | none => aliased? specifier others
      | some [] => some target
      | some rest => some (target.join (String.ofList rest))

def candidate? (resolver : Resolver) (importer : Path) (specifier : List Char) : Option Path :=
  match aliased? specifier resolver.aliases with
  | some path => some path.normalize
  | none =>
      if isRelative specifier then
        let directory := (importer.parent?).getD resolver.root
        some (directory.join (String.ofList specifier)).normalize
      else none

def probes (extensions : List String) (base : Path) : List Path :=
  base :: extensions.map (fun extension => ⟨base.text ++ extension⟩) ++
    extensions.map fun extension => base.join ("index" ++ extension)

def resolve (resolver : Resolver) (tree : FileTree) (importer : Path) (specifier : String) :
    Resolution :=
  match resolver.candidate? importer (clean specifier) with
  | none => .external
  | some base =>
      match (probes resolver.extensions base).find? tree.isFile with
      | some found => .local_ found
      | none => .unresolved base

end Resolver

end UiContract
