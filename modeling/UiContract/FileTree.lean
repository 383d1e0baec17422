import UiContract.Path
import UiContract.SortedMap
import UiContract.Text.Utf8

/-!
A tree of files, directories and symbolic links, and what a path finds in it, as the calls of a file system
answer. Directory links are followed step by step, `..` goes to the directory that holds the one reached, and
a path that ends in a slash asks for a directory. Permissions and failing devices have no place in a tree.
-/
namespace UiContract

abbrev Name := List Char

instance : Std.TransOrd (List Name) := inferInstance

inductive Entry where
  | file (bytes : List UInt8)
  | directory
  | link (target : String)
deriving DecidableEq, Repr

def Entry.isLink : Entry → Bool
  | link _ => true
  | _ => false

inductive FileError where
  | notFound
  | notDirectory
  | isDirectory
  | nameTooLong
  | tooManyLinks
  | nulCharacter
  | notUtf8
deriving DecidableEq, Repr

def FileError.message : FileError → String
  | notFound => "No such file or directory (os error 2)"
  | notDirectory => "Not a directory (os error 20)"
  | isDirectory => "Is a directory (os error 21)"
  | nameTooLong => "File name too long (os error 36)"
  | tooManyLinks => "Too many levels of symbolic links (os error 40)"
  | nulCharacter => "file name contained an unexpected NUL byte"
  | notUtf8 => "stream did not contain valid UTF-8"

/-- The entries below the root by the names that lead to them, and the directory that paths without
a leading slash start from. The root itself is a directory and is not listed. -/
structure FileTree where
  entries : SortedMap (List Name) Entry := {}
  workingDirectory : Option (List Name) := none

namespace FileTree

def entry? (tree : FileTree) (place : List Name) : Option Entry :=
  if place == [] then some .directory else tree.entries.find? place

def addParents (tree : FileTree) (place : List Name) : FileTree :=
  (List.range place.length).foldl (fun tree depth =>
    let parent := place.take depth
    if (tree.entry? parent).isSome then tree
    else { tree with entries := tree.entries.insert parent .directory }) tree

/-- Puts an entry at a place, with directories above it. A directory that is there stays. -/
def add (tree : FileTree) (place : List Name) (entry : Entry) : FileTree :=
  let tree := tree.addParents place
  if entry == .directory && tree.entry? place == some .directory then tree
  else { tree with entries := tree.entries.insert place entry }

/-- A step of a path: down to a name, up, or nowhere, which still asks for a directory. -/
inductive Step where
  | down (name : Name)
  | up
  | stay
deriving DecidableEq, Repr

def stepsOf (text : List Char) : List Step :=
  (Text.pieces (· == '/') text).map fun piece =>
    if piece == [] || piece == ['.'] then .stay
    else if piece == ['.', '.'] then .up
    else .down piece

/-- Follows steps from a directory. What a link does is left to the first argument, which is given
the directory of the link, its target and the steps behind it. -/
def walk (onLink : List Name → List Char → List Step → Except FileError (List Name))
    (tree : FileTree) : List Name → List Step → Except FileError (List Name)
  | place, [] => .ok place
  | place, step :: rest =>
      if tree.entry? place != some .directory then .error .notDirectory
      else match step with
        | .stay => walk onLink tree place rest
        | .up => walk onLink tree place.dropLast rest
        | .down name =>
            if 255 < Text.byteSize name then .error .nameTooLong
            else match tree.entry? (place ++ [name]) with
              | none => .error .notFound
              | some (.link target) => onLink place target.toList rest
              | some _ => walk onLink tree (place ++ [name]) rest

def follow (tree : FileTree) : Nat → List Name → List Step → Except FileError (List Name)
  | 0 => walk (fun _ _ _ => .error .tooManyLinks) tree
  | links + 1 => walk (fun place target rest =>
      tree.follow links (if target.head? == some '/' then [] else place)
        (stepsOf target ++ rest)) tree

def linkLimit : Nat := 40

def pathLimit : Nat := 4096

/-- A bound on the number of texts of at most so many characters, none of which is the character
zero: characters have numbers below 0x110000, and zero can stand for the end. -/
def textCount (length : Nat) : Nat := Nat.pow 0x110000 length

def locate (tree : FileTree) (path : Path) : Except FileError (List Name) :=
  let text := path.text.toList
  if text == [] then .error .notFound
  else if text.any (· == Char.ofNat 0) then .error .nulCharacter
  else if pathLimit ≤ Text.byteSize text then .error .nameTooLong
  else if path.isAbsolute then tree.follow linkLimit [] (stepsOf text)
  else match tree.workingDirectory with
    | none => .error .notFound
    | some place => tree.follow linkLimit place (stepsOf text)

def look (tree : FileTree) (path : Path) : Except FileError Entry := do
  let place ← tree.locate path
  match tree.entry? place with
  | some entry => return entry
  | none => throw .notFound

def isFile (tree : FileTree) (path : Path) : Bool :=
  match tree.look path with
  | .ok (.file _) => true
  | _ => false

def isDirectory (tree : FileTree) (path : Path) : Bool :=
  match tree.look path with
  | .ok .directory => true
  | _ => false

/-- Whether the path names a link itself: the directory is looked for, but the last step is not taken. -/
def isLink (tree : FileTree) (path : Path) : Bool :=
  match path.parent?, path.fileName? with
  | some directory, some name =>
      let start := if directory.text == "" then Path.mk "." else directory
      match tree.locate start with
      | .ok place => (tree.entry? (place ++ [name])).any Entry.isLink
      | .error _ => false
  | _, _ => false

def readBytes (tree : FileTree) (path : Path) : Except FileError (List UInt8) := do
  match ← tree.look path with
  | .file bytes => return bytes
  | _ => throw .isDirectory

def readText (tree : FileTree) (path : Path) : Except FileError String := do
  let bytes ← tree.readBytes path
  match Text.decode? bytes with
  | some characters => return String.ofList characters
  | none => throw .notUtf8

def children (tree : FileTree) (place : List Name) : List (Name × Entry) :=
  tree.entries.entries.filterMap fun (key, entry) =>
    match key.getLast? with
    | some name => if key.dropLast == place then some (name, entry) else none
    | none => none

def pathOf (place : List Name) : Path :=
  Path.ofComponents (Component.root :: place.map Component.normal)

def canonical (tree : FileTree) (path : Path) : Except FileError Path := do
  let place ← tree.locate path
  return pathOf place

end FileTree

end UiContract
