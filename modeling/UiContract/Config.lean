import UiContract.Config.Sections
import UiContract.FileTree
import UiContract.Import.Resolver
import UiContract.Toml.Document

/-!
The configuration of a run: what is reached from where, and a section for each check. `from_toml_str` reads a
configuration, which is only used if `validate` finds that it makes sense as a whole.
-/
namespace UiContract

/-- A configuration. A check whose section is missing does not run. -/
structure GateConfig where
  schemaVersion : Nat
  sourceRoot : String
  entries : List String
  extensions : List String
  aliases : SortedMap String String := {}
  registry : Option RegistrySection := none
  patterns : Option PatternsSection := none
  bannedImports : List BannedImportRule := []
  shell : Option ShellSection := none
  budgets : List BudgetRule := []
  crossRef : Option CrossRefSection := none
deriving DecidableEq, Repr

inductive ConfigError where
  | unreadable (path : Path) (reason : FileError)
  | unparsable (path : Path) (message : String)
  | invalid (message : String)
deriving DecidableEq, Repr

def ConfigError.message : ConfigError → String
  | unreadable path reason => "cannot read " ++ path.text ++ ": " ++ reason.message
  | unparsable path message => "cannot parse " ++ path.text ++ ": " ++ message
  | invalid message => message

namespace GateConfig

open Decoding

def currentVersion : Nat := 1

def defaultFile : String := "contract.toml"

def defaultExtensions : List String := [".ts", ".tsx", ".js", ".jsx"]

structure Draft where
  schemaVersion : Option Nat := none
  sourceRoot : Option String := none
  entries : Option (List String) := none
  extensions : Option (List String) := none
  aliases : Option (SortedMap String String) := none
  registry : Option (Option RegistrySection) := none
  patterns : Option (Option PatternsSection) := none
  bannedImports : Option (List BannedImportRule) := none
  shell : Option (Option ShellSection) := none
  budgets : Option (List BudgetRule) := none
  crossRef : Option (Option CrossRefSection) := none

def fields : List (Decoding.Field Draft) :=
  [{ name := "schema_version", known := fun draft => draft.schemaVersion.isSome, optional := true,
     read := fun draft => do
       return { draft with schemaVersion := some (← natural UInt32.size "u32") } },
   { name := "source_root", known := fun draft => draft.sourceRoot.isSome,
     read := fun draft => do return { draft with sourceRoot := some (← text) } },
   { name := "entries", known := fun draft => draft.entries.isSome,
     read := fun draft => do return { draft with entries := some (← list text) } },
   { name := "extensions", known := fun draft => draft.extensions.isSome, optional := true,
     read := fun draft => do return { draft with extensions := some (← list text) } },
   { name := "aliases", known := fun draft => draft.aliases.isSome, optional := true,
     read := fun draft => do return { draft with aliases := some (← map text) } },
   { name := "registry", known := fun draft => draft.registry.isSome, optional := true,
     read := fun draft => do
       return { draft with registry := some (← optional (table RegistrySection.record)) } },
   { name := "patterns", known := fun draft => draft.patterns.isSome, optional := true,
     read := fun draft => do
       return { draft with patterns := some (← optional (table PatternsSection.record)) } },
   { name := "banned_imports", known := fun draft => draft.bannedImports.isSome, optional := true,
     read := fun draft => do
       return { draft with bannedImports := some (← list (table BannedImportRule.record)) } },
   { name := "shell", known := fun draft => draft.shell.isSome, optional := true,
     read := fun draft => do
       return { draft with shell := some (← optional (table ShellSection.record)) } },
   { name := "budgets", known := fun draft => draft.budgets.isSome, optional := true,
     read := fun draft => do
       return { draft with budgets := some (← list (table BudgetRule.record)) } },
   { name := "cross_ref", known := fun draft => draft.crossRef.isSome, optional := true,
     read := fun draft => do
       return { draft with crossRef := some (← optional (table CrossRefSection.record)) } }]

def finish (draft : Draft) : Except String GateConfig := do
  let sourceRoot ← needed "source_root" draft.sourceRoot
  let entries ← needed "entries" draft.entries
  return { schemaVersion := draft.schemaVersion.getD currentVersion, sourceRoot, entries,
           extensions := draft.extensions.getD defaultExtensions,
           aliases := draft.aliases.getD {}, registry := draft.registry.join,
           patterns := draft.patterns.join, bannedImports := draft.bannedImports.getD [],
           shell := draft.shell.join, budgets := draft.budgets.getD [],
           crossRef := draft.crossRef.join }

def record : Decoding.Record Draft GateConfig :=
  { name := "GateConfig", fields, closed := true, blank := {}, finish }

def shellProblem? (shell : ShellSection) : Option String :=
  if shell.wrappers.isEmpty then some "shell.wrappers must name at least one layout wrapper"
  else if shell.wrappers.any Text.isBlankText then
    some "shell.wrappers must not contain blank names"
  else none

def problem? (config : GateConfig) : Option String :=
  if config.schemaVersion != currentVersion then
    some ("schema_version " ++ toString config.schemaVersion ++ " is not supported (expected " ++
      toString currentVersion ++ ")")
  else if Text.isBlankText config.sourceRoot then some "source_root must not be empty"
  else if config.entries.isEmpty then some "entries must list at least one file"
  else match config.extensions.find? fun extension => !Text.startsWith extension "." with
    | some extension => some (ResolverError.badExtension extension).message
    | none =>
        if config.aliases.contains "" then some "alias prefixes must not be empty"
        else config.shell.bind shellProblem?

def ofToml (text : String) : Except ConfigError GateConfig :=
  match Toml.parse text with
  | .error fault => .error (.invalid (Toml.describe text fault.span fault.message))
  | .ok datum => match (Decoding.table record).on .toml datum with
      | .error fault => match fault.span with
          | some span => .error (.invalid (Toml.describe text span fault.message))
          | none => .error (.invalid (fault.message ++ "\n"))
      | .ok config => match config.problem? with
          | some problem => .error (.invalid problem)
          | none => .ok config

def load (tree : FileTree) (path : Path) : Except ConfigError GateConfig :=
  match tree.readText path with
  | .error reason => .error (.unreadable path reason)
  | .ok text => match ofToml text with
      | .error (.invalid message) => .error (.unparsable path message)
      | other => other

end GateConfig

end UiContract
