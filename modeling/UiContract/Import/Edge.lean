import UiContract.Path

/-!
Import edges: one for each declaration of a source file that names another module, with the names it binds
and the file that its specifier leads to. `moduleName?` of a path is the `module_base_name` of the file.
-/
namespace UiContract

inductive ImportKind where
  | static
  | sideEffect
  | reExport
  | dynamic
deriving DecidableEq, Repr

def ImportKind.name : ImportKind → String
  | static => "static"
  | sideEffect => "side_effect"
  | reExport => "re_export"
  | dynamic => "dynamic"

/-- A name that a declaration binds: the default export under the name that the module goes by, an
export under its own name, or the module as a whole. -/
inductive ImportBinding where
  | defaultExport (localName moduleName : String)
  | named (imported localName : String)
  | wholeModule (localName : String)
deriving DecidableEq, Repr

def ImportBinding.componentName? : ImportBinding → Option String
  | defaultExport _ moduleName => some moduleName
  | named imported _ => some imported
  | wholeModule _ => none

/-- One import of a file. Specifiers that are marked as types bind nothing. -/
structure ImportEdge where
  importer : Path
  specifier : String
  resolved : Option Path
  bindings : List ImportBinding
  typeOnly : Bool
  kind : ImportKind
  line : Nat
deriving DecidableEq, Repr

def ImportEdge.isFollowable (edge : ImportEdge) : Bool :=
  !edge.typeOnly && edge.resolved.isSome

end UiContract
