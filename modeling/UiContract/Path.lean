import UiContract.Text.Pieces

/-!
Paths: a text and the components it names. Two paths are the same when their components are; the text is kept
as it was first written, since messages show it. `normalize` folds `.` and `..` by the components alone,
without looking at any file (`normalize_path`), and `relativeTo` is what `relative_display` shows.
-/
namespace UiContract

/-- One step of a path. The constructors stand in the order in which paths compare. -/
inductive Component where
  | root
  | current
  | parent
  | normal (name : List Char)
deriving DecidableEq, Repr

namespace Component

def rank : Component → Nat
  | root => 0
  | current => 1
  | parent => 2
  | normal _ => 3

def name? : Component → Option (List Char)
  | normal name => some name
  | _ => none

def order : Component → Component → Ordering :=
  compareLex (compareOn rank) (compareOn fun step => step.name?.getD [])

instance : Ord Component := ⟨order⟩

instance : Std.TransOrd Component :=
  inferInstanceAs (Std.TransCmp (compareLex (compareOn rank) (compareOn fun step => step.name?.getD [])))

def text : Component → List Char
  | root => []
  | current => ['.']
  | parent => ['.', '.']
  | normal name => name

/-- The component that a piece between slashes stands for; empty pieces and `.` stand for none. -/
def ofPiece? (piece : List Char) : Option Component :=
  if piece == [] || piece == ['.'] then none
  else if piece == ['.', '.'] then some parent
  else some (normal piece)

end Component

structure Path where
  text : String
deriving DecidableEq, Repr, Inhabited

namespace Path

/-- The components of a written path: the root where it begins with a slash, then one for each
piece. A leading `.` counts where the path does not begin at the root. -/
def componentsOf (characters : List Char) : List Component :=
  match Text.pieces (· == '/') characters with
  | [] => []
  | [] :: rest =>
      (if characters == [] then [] else [Component.root]) ++ rest.filterMap Component.ofPiece?
  | first :: rest =>
      (if first == ['.'] then [Component.current] else []) ++
        (first :: rest).filterMap Component.ofPiece?

def components (path : Path) : List Component :=
  componentsOf path.text.toList

def textOf : List Component → List Char
  | Component.root :: rest => '/' :: Text.joinPieces ['/'] (rest.map Component.text)
  | components => Text.joinPieces ['/'] (components.map Component.text)

def ofComponents (components : List Component) : Path :=
  ⟨String.ofList (textOf components)⟩

def order : Path → Path → Ordering := compareOn components

instance : Ord Path := ⟨order⟩

instance : Std.TransOrd Path := inferInstanceAs (Std.TransCmp (compareOn components))

def same (first second : Path) : Bool :=
  first.components == second.components

def isAbsolute (path : Path) : Bool :=
  path.text.toList.head? == some '/'

/-- The second path as seen from the first one. An absolute one stands for itself, and an empty one
adds a slash. -/
def join (base : Path) (added : String) : Path :=
  if added.toList.head? == some '/' then ⟨added⟩
  else if base.text == "" || base.text.toList.getLast? == some '/' then ⟨base.text ++ added⟩
  else ⟨base.text ++ "/" ++ added⟩

def descend (start : Path) (names : List (List Char)) : Path :=
  names.foldl (fun path name => path.join (String.ofList name)) start

/-- A reversed text without the slashes and the `.` pieces that stand at its end. The root and a
leading `.` stay. -/
def trimReversed : List Char → List Char
  | ['/'] => ['/']
  | '/' :: rest => trimReversed rest
  | '.' :: '/' :: rest => trimReversed ('/' :: rest)
  | rest => rest

def cutReversed (characters : List Char) : List Char :=
  trimReversed ((trimReversed characters).dropWhile (· != '/'))

def parent? (path : Path) : Option Path :=
  match path.components.getLast? with
  | none => none
  | some Component.root => none
  | some _ => some ⟨String.ofList (cutReversed path.text.toList.reverse).reverse⟩

def fileName? (path : Path) : Option (List Char) :=
  path.components.getLast?.bind Component.name?

/-- A file name cut at its last dot. A dot at the very beginning does not count. -/
def splitName (name : List Char) : List Char × Option (List Char) :=
  let after := Text.afterLast (· == '.') name
  if after.length == name.length || after.length + 1 == name.length then (name, none)
  else (name.take (name.length - after.length - 1), some after)

def fileStem? (path : Path) : Option (List Char) :=
  path.fileName?.map fun name => (splitName name).1

def extension? (path : Path) : Option (List Char) :=
  path.fileName?.bind fun name => (splitName name).2

def startsWith (path base : Path) : Bool :=
  base.components.isPrefixOf path.components

def trimFront : List Char → List Char
  | '/' :: rest => trimFront rest
  | ['.'] => []
  | '.' :: '/' :: rest => trimFront rest
  | rest => rest

def cutFront : List Char → List Char
  | '/' :: rest => trimFront rest
  | characters => trimFront (characters.dropWhile (· != '/'))

def cutFronts : Nat → List Char → List Char
  | 0, characters => characters
  | count + 1, characters => cutFronts count (cutFront characters)

def below? (path base : Path) : Option Path :=
  if path.startsWith base then
    let rest := cutFronts base.components.length path.text.toList
    some ⟨String.ofList (trimReversed rest.reverse).reverse⟩
  else none

/-- One step of folding: a step down is kept, `..` takes the last step down back, and what cannot
be taken back stays unless it would climb above the root. The folded steps are in reverse. -/
def foldStep (folded : List Component) : Component → List Component
  | Component.current => folded
  | Component.parent => match folded with
      | Component.normal _ :: rest => rest
      | [] => [Component.parent]
      | Component.parent :: _ => Component.parent :: folded
      | _ => folded
  | other => other :: folded

def fold (components : List Component) : List Component :=
  (components.foldl foldStep []).reverse

def normalize (path : Path) : Path :=
  ofComponents (fold path.components)

/-- The root-relative form of a path, with slashes between the names of its steps down. A path that
has none is shown as it is written below the root. -/
def relativeTo (path root : Path) : String :=
  let below := (path.below? root).getD path
  let shown := Text.joinPieces ['/'] (below.components.filterMap Component.name?)
  if shown == [] then Text.replaceChar below.text '\\' '/' else String.ofList shown

def dropCurrent : List Char → List Char
  | '.' :: '/' :: rest => dropCurrent rest
  | characters => characters

def configured (root : Path) (written : String) : Path :=
  (root.join (String.ofList (dropCurrent written.toList))).normalize

/-- The name that a module goes by: its file name up to the first dot, and for an index module the
name of its directory. -/
def moduleName? (path : Path) : Option (List Char) := do
  let stem ← path.fileStem?
  let name := Text.before (· == '.') stem
  if name == ['i', 'n', 'd', 'e', 'x'] then
    let directory ← path.parent?
    directory.fileName?
  else some name

def isBarrel (path : Path) : Bool :=
  path.fileStem? == some ['i', 'n', 'd', 'e', 'x']

end Path

end UiContract
