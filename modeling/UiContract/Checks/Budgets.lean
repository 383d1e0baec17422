import UiContract.Checks.Context
import UiContract.PathGlobs
import UiContract.Violation

/-!
The `check` of budgets, which calls `evaluate` for each rule: how many bytes its files have, or how often a
text occurs in them (`measure`), for each file or for all of them together. `matched_files` searches only
below the `glob_base` of each glob, and enters some directories on the way only where a search starts in
them.
-/
namespace UiContract.Checks

def skippedDirectories : List Name := ["node_modules".toList, ".git".toList]

def isWild (piece : List Char) : Bool :=
  piece.any fun character => "*?[\x7b".toList.contains character

def globBase (glob : String) : String :=
  let pieces := Text.pieces (· == '/') (PathFilter.normalize glob).toList
  String.ofList (Text.joinPieces ['/'] (pieces.takeWhile fun piece => !isWild piece))

structure Located where
  below : List Name
  entry : Entry

def entriesBelow (tree : FileTree) (place : List Name) : List Located :=
  (tree.entries.entries.filterMap fun (key, entry) =>
    if place.isPrefixOf key && place.length < key.length then
      let below := key.drop place.length
      let directories := if entry == .directory then below else below.dropLast
      if directories.any skippedDirectories.contains then none else some ⟨below, entry⟩
    else none)

structure WalkError where
  start : Path
  directory : Path
  reason : FileError
deriving DecidableEq, Repr

def WalkError.message (error : WalkError) : String :=
  "cannot walk " ++ error.start.text ++ ": IO error for operation on " ++ error.directory.text ++ ": " ++
    error.reason.message

-- A directory is listed by its path, which may be too long though the walk has come to the directory.
def Located.fault? (tree : FileTree) (start : Path) (located : Located) : Option WalkError :=
  match located.entry, tree.locate (start.descend located.below) with
  | .directory, .error reason => some ⟨start, start.descend located.below, reason⟩
  | _, _ => none

def Located.file? (start : Path) (located : Located) : Option Path :=
  match located.entry with
  | .file _ => some (start.descend located.below)
  | _ => none

/-- The files below a directory with their paths. Links inside are not followed. A path that is no
directory is the only file where it is one and no link. Of directories that cannot be listed the first one by
its names is told; the order of a file system may be another one. -/
def filesBelow (tree : FileTree) (start : Path) : Except WalkError (List Path) :=
  match tree.locate start with
  | .error _ => .ok []
  | .ok place => match tree.entry? place with
      | some .directory =>
          match (entriesBelow tree place).findSome? (Located.fault? tree start) with
          | some error => .error error
          | none => .ok ((entriesBelow tree place).filterMap (Located.file? start))
      | some (.file _) => .ok (if tree.isLink start then [] else [start])
      | _ => .ok []

structure Selected where
  relative : String
  path : Path
deriving DecidableEq, Repr

instance : Ord Selected := ⟨compareLex (compareOn Selected.relative) (compareOn Selected.path)⟩

instance : Std.TransOrd Selected :=
  inferInstanceAs (Std.TransCmp (compareLex (compareOn Selected.relative) (compareOn Selected.path)))

def Selected.ofPath? (root : Path) (globs : PathGlobs) (path : Path) : Option Selected :=
  let relative := path.relativeTo root
  if globs.accepts relative then some ⟨relative, path⟩ else none

def searchStarts (root : Path) (patterns : List String) : List Path :=
  (sortedDistinct (patterns.map globBase)).map fun base => if base == "" then root else root.join base

def budgetFiles (tree : FileTree) (root : Path) (patterns : List String) (globs : PathGlobs) :
    Except WalkError (List Selected) := do
  let found ← (searchStarts root patterns).mapM (filesBelow tree)
  return sortedDistinct (found.flatten.filterMap (Selected.ofPath? root globs))

inductive BudgetError where
  | glob (refusal : PathGlobs.Refusal)
  | noLiteral
  | walk (error : WalkError)
  | noFiles (patterns : List String)
  | unreadable (path : Path) (reason : FileError)
deriving DecidableEq, Repr

def BudgetError.message : BudgetError → String
  | glob refusal => refusal.message
  | noLiteral => "occurrences budget needs a non-empty literal"
  | walk error => error.message
  | noFiles patterns => "files " ++ Text.quotedList patterns ++ " matched nothing"
  | unreadable path reason => "cannot read " ++ path.text ++ ": " ++ reason.message

inductive Measure where
  | bytes
  | occurrences (literal : String)
deriving DecidableEq, Repr

def Measure.unit : Measure → String
  | bytes => "bytes"
  | occurrences _ => "occurrences"

def Measure.ofRule (rule : BudgetRule) : Except BudgetError Measure :=
  match rule.metric, rule.literal with
  | .bytes, _ => .ok bytes
  | .occurrences, some literal => if literal == "" then .error .noLiteral else .ok (occurrences literal)
  | .occurrences, none => .error .noLiteral

def Measure.count (measure : Measure) (content : List UInt8) : Nat :=
  match measure with
  | .bytes => content.length
  | .occurrences literal => Text.occurrences literal.toList (Text.decodeLossy content)

def Measure.ofFile (measure : Measure) (tree : FileTree) (path : Path) : Except BudgetError Nat :=
  match tree.readBytes path with
  | .ok content => .ok (measure.count content)
  | .error reason => .error (.unreadable path reason)

/-- The sum of the measures. It is kept in 64 bits and wraps around. -/
def totalOf (measured : List (String × Nat)) : Nat :=
  (measured.foldr (fun entry total => UInt64.ofNat entry.2 + total) 0).toNat

def overBudget (rule : BudgetRule) (unit : String) (measured : List (String × Nat)) :
    List Violation :=
  if rule.aggregate then
    let total := totalOf measured
    if total ≤ rule.max then []
    else
      [(Violation.error .budgets rule.id
        (toString total ++ " " ++ unit ++ " across " ++ toString measured.length ++
          " files exceeds the budget of " ++ toString rule.max)).withHint rule.hint]
  else (measured.filter fun entry => rule.max < entry.2).map fun (relative, value) =>
    (Violation.error .budgets relative
      (toString value ++ " " ++ unit ++ " exceeds the " ++ rule.id ++ " budget of " ++
        toString rule.max)).withHint rule.hint

def evaluateBudget [Engine] (tree : FileTree) (root : Path) (rule : BudgetRule) :
    Except BudgetError (List Violation) := do
  let globs ← (PathGlobs.compile rule.files).mapError .glob
  let measure ← Measure.ofRule rule
  let files ← (budgetFiles tree root rule.files globs).mapError .walk
  if files.isEmpty then throw (.noFiles rule.files)
  let measured ← files.mapM fun file => do
    return (file.relative, ← measure.ofFile tree file.path)
  return overBudget rule measure.unit measured

/-- The findings of all rules. A rule that cannot be measured is a finding itself. -/
def budgets [Engine] (context : CheckContext) : List Violation :=
  context.config.budgets.flatMap fun rule =>
    match evaluateBudget context.tree context.root rule with
    | .ok found => found
    | .error error => [Violation.configuration .budgets rule.id error.message]

end UiContract.Checks
