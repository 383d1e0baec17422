import UiContract.Engine
import UiContract.PathFilter

/-!
Sets of root-relative globs (`PathGlobs`). Globs and paths are brought to the compared form first; globs that
are blank in that form are left out, so a set of blank globs is empty and matches nothing. A set fails to
compile at its first bad glob, or as a whole.
-/
namespace UiContract

structure PathGlobs where
  patterns : List Glob.Pattern
deriving Repr

inductive PathGlobs.Refusal where
  | glob (given compared : String) (reason : Glob.GlobError)
  | set (reason : String)
deriving DecidableEq, Repr

def PathGlobs.Refusal.message : PathGlobs.Refusal → String
  | glob given compared reason =>
      "invalid glob '" ++ given ++ "': error parsing glob '" ++ compared ++ "': " ++ reason.message
  | set reason => "invalid glob set: " ++ reason

namespace PathGlobs

def compileOne (glob : String) : Except Refusal (Option Glob.Pattern) :=
  let compared := PathFilter.normalize glob
  if compared == "" then .ok none
  else match Glob.parse compared.toList with
    | .ok pattern => .ok (some pattern)
    | .error reason => .error (.glob glob compared reason)

/-- Builds a set of globs. The set without globs is never refused. -/
def build [Engine] : List Glob.Pattern → Except Refusal PathGlobs
  | [] => .ok ⟨[]⟩
  | first :: others =>
      match Engine.globFault? (first :: others) with
      | some reason => .error (.set reason)
      | none => .ok ⟨first :: others⟩

/-- Reads a list of globs; the first one that cannot be read is the answer where one cannot. -/
def compile [Engine] (globs : List String) : Except Refusal PathGlobs := do
  let patterns ← globs.mapM compileOne
  build (patterns.filterMap id)

def isEmpty (globs : PathGlobs) : Bool :=
  globs.patterns.isEmpty

def accepts (globs : PathGlobs) (path : String) : Bool :=
  let bytes := Text.encode (PathFilter.normalize path).toList
  globs.patterns.any fun pattern => pattern.accepts bytes

end PathGlobs

end UiContract
