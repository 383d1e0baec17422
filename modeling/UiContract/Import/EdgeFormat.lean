import UiContract.Import.Edge
import UiContract.Json.Reader

/-!
Import edges read from JSON texts. A binding says what it is in its field `kind`; its other fields
are looked at once that is known, so what is wrong with them is told last.
-/
namespace UiContract

namespace ImportKind

def named : List (String × ImportKind) :=
  [static, sideEffect, reExport, dynamic].map fun kind => (kind.name, kind)

end ImportKind

namespace ImportBinding

inductive Form where
  | defaultExport
  | named
  | wholeModule
deriving DecidableEq, Repr

def Form.choices : List (String × Form) :=
  [("default", .defaultExport), ("named", .named), ("namespace", .wholeModule)]

def Form.title : Form → String
  | defaultExport => "Default"
  | named => "Named"
  | wholeModule => "Namespace"

def Form.fields : Form → List String
  | defaultExport => ["local", "name"]
  | named => ["imported", "local"]
  | wholeModule => ["local"]

def typeName : String := "internally tagged enum ImportBinding"

structure Draft where
  form : Option Form := none
  entries : List (String × Datum) := []

def readForm : Json.Reading Form := Json.variant Form.choices

def readEntry (draft : Draft) : Json.Reading Draft := do
  let name ← Json.key
  if name == "kind" then
    if draft.form.isSome then Json.mistake (Wording.duplicateField name)
    else
      Json.colon
      return { draft with form := some (← readForm) }
  else
    Json.colon
    return { draft with entries := (name, ← Json.value) :: draft.entries }

def textOf (datum : Datum) : Json.Reading String :=
  match datum with
  | .scalar _ (.text text) => return text
  | other => Json.mistake (Wording.invalidType (other.found Double.compactText) "a string")

def textsOf (fields : List String) :
    List (String × String) → List (String × Datum) → Json.Reading (List (String × String))
  | known, [] => return known
  | known, (name, datum) :: rest => do
      if !fields.contains name then textsOf fields known rest
      else if known.any fun entry => entry.1 == name then
        Json.mistake (Wording.duplicateField name)
      else textsOf fields ((name, ← textOf datum) :: known) rest

def ofTexts (form : Form) (known : List (String × String)) : Json.Reading ImportBinding := do
  let field (name : String) : Json.Reading String :=
    match known.find? fun entry => entry.1 == name with
    | some entry => return entry.2
    | none => Json.mistake (Wording.missingField name)
  match form with
  | .defaultExport => return .defaultExport (← field "local") (← field "name")
  | .named =>
      let imported ← field "imported"
      return .named imported (← field "local")
  | .wholeModule => return .wholeModule (← field "local")

def ofItems (form : Form) (items : List Datum) : Json.Reading ImportBinding := do
  let expected := "struct variant ImportBinding::" ++ form.title
  if items.length < form.fields.length then
    let _ ← items.mapM textOf
    Json.mistake (Wording.invalidLength items.length expected form.fields.length)
  else
    let texts ← (items.take form.fields.length).mapM textOf
    if form.fields.length < items.length then
      Json.mistake ("invalid length " ++ toString items.length ++ ", expected " ++
        toString form.fields.length ++
        (if form.fields.length == 1 then " element" else " elements") ++ " in sequence")
    else ofTexts form (form.fields.zip texts)

def read : Json.Reading ImportBinding := do
  match ← Json.upcoming with
  | some '{' =>
      let draft ← Json.settled <| Json.objectOf do
        let draft ← Json.overEntries readEntry (← Json.remaining) true {}
        if draft.form.isNone then Json.mistake (Wording.missingField "kind")
        return draft
      match draft.form with
      | some form => ofTexts form (← textsOf form.fields [] draft.entries.reverse)
      | none => Json.mistake (Wording.missingField "kind")
  | some '[' =>
      let (form, items) ← Json.settled <| Json.arrayOf do
        if ← Json.moreItems true then
          let form ← readForm
          let items ← Json.overItems (fun read => return (← Json.value) :: read)
            (← Json.remaining) false []
          return (form, items.reverse)
        else Json.mistake (Wording.missingField "kind")
      ofItems form items
  | none => Json.faultAhead Json.endInValue
  | _ => Json.refused typeName

end ImportBinding

namespace ImportEdge

structure Draft where
  importer : Option Path := none
  specifier : Option String := none
  resolved : Option (Option Path) := none
  bindings : Option (List ImportBinding) := none
  typeOnly : Option Bool := none
  kind : Option ImportKind := none
  line : Option Nat := none

def readPath : Json.Reading Path := do
  return ⟨← Json.stringOf "path string"⟩

def fields : List (Json.Field Draft) :=
  [{ name := "from", known := fun draft => draft.importer.isSome,
     read := fun draft => do return { draft with importer := some (← readPath) } },
   { name := "specifier", known := fun draft => draft.specifier.isSome,
     read := fun draft => do return { draft with specifier := some (← Json.text) } },
   { name := "resolved", known := fun draft => draft.resolved.isSome,
     read := fun draft => do return { draft with resolved := some (← Json.optional readPath) } },
   { name := "bindings", known := fun draft => draft.bindings.isSome,
     read := fun draft => do
       return { draft with bindings := some (← Json.list ImportBinding.read) } },
   { name := "type_only", known := fun draft => draft.typeOnly.isSome,
     read := fun draft => do return { draft with typeOnly := some (← Json.boolean) } },
   { name := "kind", known := fun draft => draft.kind.isSome,
     read := fun draft => do return { draft with kind := some (← Json.variant ImportKind.named) } },
   { name := "line", known := fun draft => draft.line.isSome,
     read := fun draft => do return { draft with line := some (← Json.size) } }]

/-- The edge that is known, or the field that is missing. What it resolves to may be left out. -/
def finish (draft : Draft) : Except String ImportEdge := do
  let importer ← needed "from" draft.importer
  let specifier ← needed "specifier" draft.specifier
  let bindings ← needed "bindings" draft.bindings
  let typeOnly ← needed "type_only" draft.typeOnly
  let kind ← needed "kind" draft.kind
  let line ← needed "line" draft.line
  return { importer, specifier, resolved := draft.resolved.join, bindings, typeOnly, kind, line }

def record : Json.Record Draft ImportEdge :=
  { name := "ImportEdge", fields, blank := {}, finish }

def ofJson (text : String) : Except String ImportEdge := Json.decode (Json.table record) text

end ImportEdge

end UiContract
