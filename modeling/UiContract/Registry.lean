import UiContract.Json.Reader
import UiContract.Table
import UiContract.Text.Blank

/-!
The component registry (`from_entries`, `load`): for each component its state of life and, where it has one,
its replacement. Names are compared without blanks around them, and no name is listed twice.
-/
namespace UiContract

inductive ComponentStatus where
  | canonical
  | compat
  | legacy
  | forbidden
deriving DecidableEq, Repr

namespace ComponentStatus

def all : List ComponentStatus := [canonical, compat, legacy, forbidden]

def name : ComponentStatus → String
  | canonical => "canonical"
  | compat => "compat"
  | legacy => "legacy"
  | forbidden => "forbidden"

def named : List (String × ComponentStatus) := all.map fun status => (status.name, status)

def isDisallowed : ComponentStatus → Bool
  | legacy => true
  | forbidden => true
  | _ => false

end ComponentStatus

structure RegistryEntry where
  name : String
  status : ComponentStatus
  replacement : Option String := none
  note : Option String := none
deriving DecidableEq, Repr

namespace RegistryEntry

structure Draft where
  name : Option String := none
  status : Option ComponentStatus := none
  replacement : Option (Option String) := none
  note : Option (Option String) := none

def fields : List (Json.Field Draft) :=
  [{ name := "name", known := fun draft => draft.name.isSome,
     read := fun draft => do return { draft with name := some (← Json.text) } },
   { name := "status", known := fun draft => draft.status.isSome,
     read := fun draft => do
       return { draft with status := some (← Json.variant ComponentStatus.named) } },
   { name := "replacement", known := fun draft => draft.replacement.isSome, optional := true,
     read := fun draft => do
       return { draft with replacement := some (← Json.optional Json.text) } },
   { name := "note", known := fun draft => draft.note.isSome, optional := true,
     read := fun draft => do return { draft with note := some (← Json.optional Json.text) } }]

def finish (draft : Draft) : Except String RegistryEntry := do
  let name ← needed "name" draft.name
  let status ← needed "status" draft.status
  return { name, status, replacement := draft.replacement.join, note := draft.note.join }

def record : Json.Record Draft RegistryEntry :=
  { name := "RegistryEntry", fields, closed := true, blank := {}, finish }

def listOfJson (text : String) : Except String (List RegistryEntry) :=
  Json.decode (Json.list (Json.table record)) text

end RegistryEntry

structure RegistryTable where
  schemaVersion : Nat
  components : List RegistryEntry
deriving DecidableEq, Repr

namespace RegistryTable

def currentVersion : Nat := 1

structure Draft where
  schemaVersion : Option Nat := none
  components : Option (List RegistryEntry) := none

def fields : List (Json.Field Draft) :=
  [{ name := "schema_version", known := fun draft => draft.schemaVersion.isSome, optional := true,
     read := fun draft => do return { draft with schemaVersion := some (← Json.natural32) } },
   { name := "components", known := fun draft => draft.components.isSome,
     read := fun draft => do
       return { draft with components := some (← Json.list (Json.table RegistryEntry.record)) } }]

def finish (draft : Draft) : Except String RegistryTable := do
  let components ← needed "components" draft.components
  return { schemaVersion := draft.schemaVersion.getD currentVersion, components }

def record : Json.Record Draft RegistryTable :=
  { name := "RegistryTable", fields, blank := {}, finish }

end RegistryTable

structure Registry where
  entries : SortedMap String RegistryEntry := {}
deriving DecidableEq, Repr

inductive RegistryError where
  | table (error : TableError)
  | unsupportedVersion (path : Path) (version : Nat)
  | emptyName
  | duplicate (name : String)
deriving DecidableEq, Repr

def RegistryError.message : RegistryError → String
  | table error => error.message
  | unsupportedVersion path version =>
      path.text ++ ": registry schema_version " ++ toString version ++ " is not supported"
  | emptyName => "registry entry with an empty name"
  | duplicate name => "component '" ++ name ++ "' is listed more than once"

namespace Registry

def add (registry : Registry) (entry : RegistryEntry) : Except RegistryError Registry :=
  let name := Text.trim entry.name
  if name == "" then .error .emptyName
  else if registry.entries.contains name then .error (.duplicate name)
  else .ok ⟨registry.entries.insert name entry⟩

def ofEntries (entries : List RegistryEntry) : Except RegistryError Registry :=
  entries.foldlM add {}

def load (tree : FileTree) (path : Path) : Except RegistryError Registry :=
  match Table.read (Json.table RegistryTable.record) tree path with
  | .error error => .error (.table error)
  | .ok table =>
      if table.schemaVersion != RegistryTable.currentVersion then
        .error (.unsupportedVersion path table.schemaVersion)
      else ofEntries table.components

def find? (registry : Registry) (name : String) : Option RegistryEntry :=
  registry.entries.find? name

def size (registry : Registry) : Nat := registry.entries.size

end Registry

end UiContract
