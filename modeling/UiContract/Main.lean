import UiContract.CommandLine

/-!
The program: the files that a command line is about are read into a tree, the command runs on the tree, and
what it leaves behind is printed. Nothing is proved of this layer.
-/
namespace UiContract.CommandLine

def placeOf (path : Path) : List Name := path.components.filterMap Component.name?

structure Survey where
  tree : FileTree := {}
  roots : List (List Name) := []

namespace Survey

def put (survey : Survey) (path : String) (entry : Entry) : Survey :=
  { survey with tree := survey.tree.add (placeOf ⟨path⟩) entry }

def covers (survey : Survey) (path : String) : Bool :=
  survey.roots.any fun root => root.isPrefixOf (placeOf ⟨path⟩)

mutual

/-- Reads what a path without links names, with all that is below it. -/
partial def read (survey : Survey) (path : String) : IO Survey := do
  let real ← IO.FS.realPath path
  if ← real.isDir then
    let mut survey := survey.put path .directory
    for item in ← real.readDir do
      survey ← survey.readItem ((Path.mk path).join item.fileName).text
    return survey
  else
    let bytes ← IO.FS.readBinFile path
    return survey.put path (.file bytes.toList)

/-- Reads what a directory holds at a path. A link becomes one to the place that it leads to, and one
that leads nowhere stays so. -/
partial def readItem (survey : Survey) (path : String) : IO Survey := do
  try
    let target := (← IO.FS.realPath path).toString
    if target == path then survey.read path
    else (survey.put path (.link target)).readRoot target
  catch _ => return survey.put path (.link "")

/-- Reads what a path without links names unless it is read already. -/
partial def readRoot (survey : Survey) (path : String) : IO Survey := do
  if survey.covers path then return survey
  else ({ survey with roots := placeOf ⟨path⟩ :: survey.roots } : Survey).read path

end

def mount (survey : Survey) (start path : String) : IO Survey := do
  let written := ((Path.mk start).join path).normalize.text
  try
    let real := (← IO.FS.realPath path).toString
    let survey ← survey.readRoot real
    return if written == real then survey else survey.put written (.link real)
  catch _ => return survey

end Survey

def world (settings : Settings) : IO FileTree := do
  let start := (← IO.currentDir).toString
  let survey ← ({} : Survey).mount start settings.root
  let survey ← match settings.config with
    | some path => survey.mount start path
    | none => pure survey
  return { (survey.put start .directory).tree with workingDirectory := some (placeOf ⟨start⟩) }

end UiContract.CommandLine

open UiContract in
def main (words : List String) : IO UInt32 := do
  let tree ← match CommandLine.parse words with
    | .ok settings => CommandLine.world settings
    | .error _ => pure {}
  let outcome := @CommandLine.run .rough tree words
  IO.print outcome.stdout
  IO.eprint outcome.stderr
  return outcome.code.toUInt32
