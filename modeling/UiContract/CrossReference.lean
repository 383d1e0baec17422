import UiContract.Table
import UiContract.Violation

/-!
The agreement of routes and shared data. A route and a key belong together only when the blueprint of the
route lists the key and the datum lists the route among its owners; `validate` looks at both directions,
`blueprint_to_datum` and `datum_to_blueprint`, and at each blueprint by itself.
-/
namespace UiContract

structure RouteBlueprint where
  sections : List String := []
  sharedKeys : List String := []
deriving DecidableEq, Repr

abbrev BlueprintTable := SortedMap String RouteBlueprint

/-- A shared datum, by the routes that own it. What it holds is never looked at. -/
structure SharedDatum where
  ownerRoutes : List String := []
deriving DecidableEq, Repr

abbrev SharedDataTable := SortedMap String SharedDatum

namespace RouteBlueprint

structure Draft where
  sections : Option (List String) := none
  sharedKeys : Option (List String) := none

def fields : List (Json.Field Draft) :=
  [{ name := "sections", known := fun draft => draft.sections.isSome, optional := true,
     read := fun draft => do return { draft with sections := some (← Json.list Json.text) } },
   { name := "shared_keys", known := fun draft => draft.sharedKeys.isSome, optional := true,
     read := fun draft => do return { draft with sharedKeys := some (← Json.list Json.text) } }]

def record : Json.Record Draft RouteBlueprint :=
  { name := "RouteBlueprint", fields, blank := {},
    finish := fun draft => .ok
      { sections := draft.sections.getD [], sharedKeys := draft.sharedKeys.getD [] } }

end RouteBlueprint

namespace SharedDatum

structure Draft where
  value : Option Datum := none
  format : Option String := none
  ownerRoutes : Option (List String) := none

def fields : List (Json.Field Draft) :=
  [{ name := "value", known := fun draft => draft.value.isSome, optional := true,
     read := fun draft => do return { draft with value := some (← Json.value) } },
   { name := "format", known := fun draft => draft.format.isSome, optional := true,
     read := fun draft => do return { draft with format := some (← Json.text) } },
   { name := "owner_routes", known := fun draft => draft.ownerRoutes.isSome, optional := true,
     read := fun draft => do return { draft with ownerRoutes := some (← Json.list Json.text) } }]

def record : Json.Record Draft SharedDatum :=
  { name := "SharedDatum", fields, blank := {},
    finish := fun draft => .ok { ownerRoutes := draft.ownerRoutes.getD [] } }

end SharedDatum

namespace CrossReference

def mapRecord {α : Type} (name field : String) (value : Json.Reading α) :
    Json.Record (Option (SortedMap String α)) (SortedMap String α) :=
  { name, blank := none, finish := needed field,
    fields := [{ name := field, known := Option.isSome,
                 read := fun _ => do return some (← Json.map value) }] }

def blueprintTable : Json.Reading BlueprintTable :=
  Json.table (mapRecord "BlueprintTable" "routes" (Json.table RouteBlueprint.record))

def sharedDataTable : Json.Reading SharedDataTable :=
  Json.table (mapRecord "SharedDataTable" "keys" (Json.table SharedDatum.record))

inductive Disagreement where
  | unknownKey (route key : String)
  | missingOwner (route key : String)
  | ownerless (key : String)
  | unknownOwner (route key : String)
  | missingKey (route key : String)
deriving DecidableEq, Repr

/-- The error about a disagreement. Its subject is the route where the blueprint goes further, and the
key where the datum does. -/
def Disagreement.violation : Disagreement → Violation
  | unknownKey route key =>
      (Violation.error .crossRef route ("blueprint references unknown shared key " ++ key)).withHint
        "Add the key to the shared data table or drop it from the blueprint"
  | missingOwner route key =>
      (Violation.error .crossRef route
        ("blueprint references " ++ key ++ " but " ++ key ++ " omits " ++ route ++
          " as owner")).withHint ("Add " ++ route ++ " to " ++ key ++ ".owner_routes")
  | ownerless key =>
      Violation.error .crossRef key ("shared key " ++ key ++ " has no owners")
  | unknownOwner route key =>
      Violation.error .crossRef key ("owner route " ++ route ++ " has no blueprint")
  | missingKey route key =>
      (Violation.error .crossRef key ("owner route " ++ route ++ " omits " ++ key)).withHint
        ("List " ++ key ++ " in the " ++ route ++ " blueprint's shared_keys")

def keyDisagreement? (shared : SharedDataTable) (route key : String) : Option Disagreement :=
  match shared.find? key with
  | none => some (.unknownKey route key)
  | some datum =>
      if datum.ownerRoutes.contains route then none else some (.missingOwner route key)

def blueprintToDatum (blueprints : BlueprintTable) (shared : SharedDataTable) : List Disagreement :=
  blueprints.entries.flatMap fun (route, blueprint) =>
    (sortedDistinct blueprint.sharedKeys).filterMap (keyDisagreement? shared route)

def ownerDisagreement? (blueprints : BlueprintTable) (key owner : String) : Option Disagreement :=
  match blueprints.find? owner with
  | none => some (.unknownOwner owner key)
  | some blueprint =>
      if blueprint.sharedKeys.contains key then none else some (.missingKey owner key)

def datumToBlueprint (blueprints : BlueprintTable) (shared : SharedDataTable) : List Disagreement :=
  shared.entries.flatMap fun (key, datum) =>
    if datum.ownerRoutes.isEmpty then [.ownerless key]
    else (sortedDistinct datum.ownerRoutes).filterMap (ownerDisagreement? blueprints key)

def repeated (texts : List String) : List String :=
  (sortedDistinct texts).filter fun text => 1 < texts.count text

def blueprintWarnings (route : String) (blueprint : RouteBlueprint) : List Violation :=
  (if blueprint.sections.isEmpty then
    [Violation.warning .crossRef route "blueprint declares no sections"] else []) ++
  (repeated blueprint.sections).map (fun name =>
    Violation.warning .crossRef route ("section " ++ name ++ " is declared more than once")) ++
  (repeated blueprint.sharedKeys).map fun key =>
    Violation.warning .crossRef route ("shared key " ++ key ++ " is listed more than once")

def blueprintHygiene (blueprints : BlueprintTable) : List Violation :=
  blueprints.entries.flatMap fun (route, blueprint) => blueprintWarnings route blueprint

def validate (blueprints : BlueprintTable) (shared : SharedDataTable) : List Violation :=
  (blueprintToDatum blueprints shared ++ datumToBlueprint blueprints shared).map
    Disagreement.violation ++ blueprintHygiene blueprints

def tableViolation {α : Type} (subject : String) : Except TableError α → List Violation
  | .ok _ => []
  | .error error => [Violation.configuration .crossRef subject error.message]

def check (tree : FileTree) (root : Path) (blueprintPath sharedPath : String) : List Violation :=
  let blueprints := Table.read blueprintTable tree (root.configured blueprintPath)
  let shared := Table.read sharedDataTable tree (root.configured sharedPath)
  match blueprints, shared with
  | .ok blueprints, .ok shared => validate blueprints shared
  | _, _ => tableViolation blueprintPath blueprints ++ tableViolation sharedPath shared

end CrossReference

end UiContract
