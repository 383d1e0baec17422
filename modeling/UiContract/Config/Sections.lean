import UiContract.Check
import UiContract.Decoding

/-!
The sections of a configuration and the rules that they hold. All paths are relative to the root of the
project.
-/
namespace UiContract

structure RegistrySection where
  table : String
  componentRoot : String
  ignore : List String := []
deriving DecidableEq, Repr

structure PatternRule where
  id : String
  pattern : String
  hint : String := ""
  level : Level := .error
deriving DecidableEq, Repr

structure PatternsSection where
  scan : List String
  rules : List PatternRule := []
  exceptions : SortedMap String (List String) := {}
deriving DecidableEq, Repr

inductive ImportMatch where
  | whole
  | beginning
deriving DecidableEq, Repr

structure BannedImportRule where
  id : String
  specifier : String
  compared : ImportMatch := .whole
  hint : String := ""
deriving DecidableEq, Repr

structure ShellSection where
  routesDirectory : String
  wrappers : List String
  exempt : List String := []
deriving DecidableEq, Repr

inductive BudgetMetric where
  | bytes
  | occurrences
deriving DecidableEq, Repr

structure BudgetRule where
  id : String
  metric : BudgetMetric
  files : List String
  max : Nat
  aggregate : Bool := false
  literal : Option String := none
  hint : String := ""
deriving DecidableEq, Repr

structure CrossRefSection where
  blueprints : String
  sharedData : String
deriving DecidableEq, Repr

def ImportMatch.name : ImportMatch → String
  | whole => "exact"
  | beginning => "prefix"

def ImportMatch.named : List (String × ImportMatch) :=
  [whole, beginning].map fun compared => (compared.name, compared)

def BudgetMetric.name : BudgetMetric → String
  | bytes => "bytes"
  | occurrences => "occurrences"

def BudgetMetric.named : List (String × BudgetMetric) :=
  [bytes, occurrences].map fun metric => (metric.name, metric)

namespace RegistrySection

open Decoding

structure Draft where
  table : Option String := none
  componentRoot : Option String := none
  ignore : Option (List String) := none

def record : Decoding.Record Draft RegistrySection :=
  { name := "RegistryConfig", closed := true, blank := {},
    fields :=
      [{ name := "table", known := fun draft => draft.table.isSome,
         read := fun draft => do return { draft with table := some (← text) } },
       { name := "component_root", known := fun draft => draft.componentRoot.isSome,
         read := fun draft => do return { draft with componentRoot := some (← text) } },
       { name := "ignore", known := fun draft => draft.ignore.isSome, optional := true,
         read := fun draft => do return { draft with ignore := some (← list text) } }],
    finish := fun draft => do
      let table ← needed "table" draft.table
      let componentRoot ← needed "component_root" draft.componentRoot
      return { table, componentRoot, ignore := draft.ignore.getD [] } }

end RegistrySection

namespace PatternRule

open Decoding

structure Draft where
  id : Option String := none
  pattern : Option String := none
  hint : Option String := none
  level : Option Level := none

def record : Decoding.Record Draft PatternRule :=
  { name := "PatternRule", closed := true, blank := {},
    fields :=
      [{ name := "id", known := fun draft => draft.id.isSome,
         read := fun draft => do return { draft with id := some (← text) } },
       { name := "pattern", known := fun draft => draft.pattern.isSome,
         read := fun draft => do return { draft with pattern := some (← text) } },
       { name := "hint", known := fun draft => draft.hint.isSome, optional := true,
         read := fun draft => do return { draft with hint := some (← text) } },
       { name := "level", known := fun draft => draft.level.isSome, optional := true,
         read := fun draft => do return { draft with level := some (← variant Level.named) } }],
    finish := fun draft => do
      let id ← needed "id" draft.id
      let pattern ← needed "pattern" draft.pattern
      return { id, pattern, hint := draft.hint.getD "", level := draft.level.getD .error } }

end PatternRule

namespace PatternsSection

open Decoding

structure Draft where
  scan : Option (List String) := none
  rules : Option (List PatternRule) := none
  exceptions : Option (SortedMap String (List String)) := none

def record : Decoding.Record Draft PatternsSection :=
  { name := "PatternsConfig", closed := true, blank := {},
    fields :=
      [{ name := "scan", known := fun draft => draft.scan.isSome,
         read := fun draft => do return { draft with scan := some (← list text) } },
       { name := "rules", known := fun draft => draft.rules.isSome, optional := true,
         read := fun draft => do
           return { draft with rules := some (← list (table PatternRule.record)) } },
       { name := "exceptions", known := fun draft => draft.exceptions.isSome, optional := true,
         read := fun draft => do return { draft with exceptions := some (← map (list text)) } }],
    finish := fun draft => do
      let scan ← needed "scan" draft.scan
      return { scan, rules := draft.rules.getD [], exceptions := draft.exceptions.getD {} } }

end PatternsSection

namespace BannedImportRule

open Decoding

structure Draft where
  id : Option String := none
  specifier : Option String := none
  compared : Option ImportMatch := none
  hint : Option String := none

def record : Decoding.Record Draft BannedImportRule :=
  { name := "BannedImportRule", closed := true, blank := {},
    fields :=
      [{ name := "id", known := fun draft => draft.id.isSome,
         read := fun draft => do return { draft with id := some (← text) } },
       { name := "specifier", known := fun draft => draft.specifier.isSome,
         read := fun draft => do return { draft with specifier := some (← text) } },
       { name := "match", known := fun draft => draft.compared.isSome, optional := true,
         read := fun draft => do
           return { draft with compared := some (← variant ImportMatch.named) } },
       { name := "hint", known := fun draft => draft.hint.isSome, optional := true,
         read := fun draft => do return { draft with hint := some (← text) } }],
    finish := fun draft => do
      let id ← needed "id" draft.id
      let specifier ← needed "specifier" draft.specifier
      return { id, specifier, compared := draft.compared.getD .whole,
               hint := draft.hint.getD "" } }

end BannedImportRule

namespace ShellSection

open Decoding

structure Draft where
  routesDirectory : Option String := none
  wrappers : Option (List String) := none
  exempt : Option (List String) := none

def record : Decoding.Record Draft ShellSection :=
  { name := "ShellConfig", closed := true, blank := {},
    fields :=
      [{ name := "routes_dir", known := fun draft => draft.routesDirectory.isSome,
         read := fun draft => do return { draft with routesDirectory := some (← text) } },
       { name := "wrappers", known := fun draft => draft.wrappers.isSome,
         read := fun draft => do return { draft with wrappers := some (← list text) } },
       { name := "exempt", known := fun draft => draft.exempt.isSome, optional := true,
         read := fun draft => do return { draft with exempt := some (← list text) } }],
    finish := fun draft => do
      let routesDirectory ← needed "routes_dir" draft.routesDirectory
      let wrappers ← needed "wrappers" draft.wrappers
      return { routesDirectory, wrappers, exempt := draft.exempt.getD [] } }

end ShellSection

namespace BudgetRule

open Decoding

structure Draft where
  id : Option String := none
  metric : Option BudgetMetric := none
  files : Option (List String) := none
  max : Option Nat := none
  aggregate : Option Bool := none
  literal : Option (Option String) := none
  hint : Option String := none

def record : Decoding.Record Draft BudgetRule :=
  { name := "BudgetRule", closed := true, blank := {},
    fields :=
      [{ name := "id", known := fun draft => draft.id.isSome,
         read := fun draft => do return { draft with id := some (← text) } },
       { name := "metric", known := fun draft => draft.metric.isSome,
         read := fun draft => do return { draft with metric := some (← variant BudgetMetric.named) } },
       { name := "files", known := fun draft => draft.files.isSome,
         read := fun draft => do return { draft with files := some (← list text) } },
       { name := "max", known := fun draft => draft.max.isSome,
         read := fun draft => do return { draft with max := some (← natural UInt64.size "u64") } },
       { name := "aggregate", known := fun draft => draft.aggregate.isSome, optional := true,
         read := fun draft => do return { draft with aggregate := some (← boolean) } },
       { name := "literal", known := fun draft => draft.literal.isSome, optional := true,
         read := fun draft => do return { draft with literal := some (← optional text) } },
       { name := "hint", known := fun draft => draft.hint.isSome, optional := true,
         read := fun draft => do return { draft with hint := some (← text) } }],
    finish := fun draft => do
      let id ← needed "id" draft.id
      let metric ← needed "metric" draft.metric
      let files ← needed "files" draft.files
      let max ← needed "max" draft.max
      return { id, metric, files, max, aggregate := draft.aggregate.getD false,
               literal := draft.literal.join, hint := draft.hint.getD "" } }

end BudgetRule

namespace CrossRefSection

open Decoding

structure Draft where
  blueprints : Option String := none
  sharedData : Option String := none

def record : Decoding.Record Draft CrossRefSection :=
  { name := "CrossRefConfig", closed := true, blank := {},
    fields :=
      [{ name := "blueprints", known := fun draft => draft.blueprints.isSome,
         read := fun draft => do return { draft with blueprints := some (← text) } },
       { name := "shared_data", known := fun draft => draft.sharedData.isSome,
         read := fun draft => do return { draft with sharedData := some (← text) } }],
    finish := fun draft => do
      let blueprints ← needed "blueprints" draft.blueprints
      let sharedData ← needed "shared_data" draft.sharedData
      return { blueprints, sharedData } }

end CrossRefSection

end UiContract
