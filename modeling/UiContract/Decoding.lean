import UiContract.Datum
import UiContract.Record
import UiContract.SortedMap

/-!
Typed decoding of data. What is wrong is told at the innermost datum that has a place; a field of the
wrong name is told at its key, and a missing field at the table. TOML documents and JSON values word
some faults differently.
-/
namespace UiContract

inductive Origin where
  | toml
  | json
deriving DecidableEq, Repr

structure DecodingFault where
  message : String
  span : Option Span := none
deriving DecidableEq, Repr

abbrev Decoding (α : Type) := ReaderT Origin (ReaderT Datum (Except DecodingFault)) α

namespace Decoding

def on {α : Type} (decoding : Decoding α) (origin : Origin) (datum : Datum) :
    Except DecodingFault α :=
  decoding origin datum

def fault {α : Type} (message : String) : Decoding α := throw { message }

def subject : Decoding Datum := fun _ datum => .ok datum

def source : Decoding Origin := fun origin _ => .ok origin

def placed {α : Type} (span : Option Span) (result : Except DecodingFault α) :
    Except DecodingFault α :=
  match result with
  | .error fault => .error { fault with span := fault.span <|> span }
  | other => other

def settled {α : Type} (decoding : Decoding α) : Decoding α := fun origin datum =>
  placed datum.span (decoding.on origin datum)

def inside {α : Type} (decoding : Decoding α) (datum : Datum) : Decoding α := fun origin _ =>
  (settled decoding).on origin datum

def foundText : Decoding String := fun origin datum =>
  .ok <| datum.found fun number => match origin with
    | .toml => number.plainText
    | .json => number.compactText

def refused {α : Type} (expected : String) : Decoding α := do
  fault (Wording.invalidType (← foundText) expected)

def text : Decoding String := settled do
  match ← subject with
  | .scalar _ (.text value) => return value
  | _ => refused "a string"

def boolean : Decoding Bool := settled do
  match ← subject with
  | .scalar _ (.boolean value) => return value
  | _ => refused "a boolean"

def natural (limit : Nat) (expected : String) : Decoding Nat := settled do
  match ← subject with
  | .scalar _ (.integer value) =>
      if 0 ≤ value && value < limit then return value.toNat
      else fault (Wording.invalidValue (Wording.integer value) expected)
  | _ => refused expected

def optional {α : Type} (decoding : Decoding α) : Decoding (Option α) := do
  match ← subject with
  | .scalar _ .null => return none
  | _ => return some (← decoding)

def list {α : Type} (item : Decoding α) : Decoding (List α) := settled do
  match ← subject with
  | .sequence _ items => items.mapM (inside item)
  | _ => refused "a sequence"

def momentKey : String := "$__toml_private_datetime"

def entries? : Datum → Option (List (Key × Datum))
  | .table _ entries => some entries
  | .scalar _ (.moment value) => some [({ name := momentKey }, .scalar none (.text value))]
  | _ => none

def entryValue {α : Type} (decoding : Decoding α) (key : Key) (value : Datum) : Decoding α :=
  fun origin _ =>
    placed (value.span <|> key.span) ((settled decoding).on origin value)

def map {α : Type} (value : Decoding α) : Decoding (SortedMap String α) := settled do
  match entries? (← subject) with
  | some entries =>
      let read ← entries.mapM fun (key, datum) => do return (key.name, ← entryValue value key datum)
      return SortedMap.ofList read
  | none => refused "a map"

abbrev Record (Draft α : Type) := FieldRecord Decoding Draft α

abbrev Field (Draft : Type) := RecordField Decoding Draft

section

variable {Draft α : Type}

def fields (record : Record Draft α) : Draft → List (Key × Datum) → Decoding Draft
  | draft, [] => return draft
  | draft, (key, datum) :: rest => do
      match record.fields.find? fun field => field.name == key.name with
      | some field =>
          let draft ← entryValue (field.read draft) key datum
          fields record draft rest
      | none =>
          if record.closed then
            throw { message := Wording.unknownField key.name record.fieldNames, span := key.span }
          else fields record draft rest

def fieldsInOrder (record : Record Draft α) (index : Nat) :
    Draft → List (Field Draft) → List Datum → Decoding Draft
  | draft, field :: others, item :: rest => do
      fieldsInOrder record (index + 1) (← inside (field.read draft) item) others rest
  | draft, field :: others, [] =>
      if field.optional then fieldsInOrder record (index + 1) draft others []
      else fault (Wording.invalidLength index ("struct " ++ record.name) record.fields.length)
  | draft, [], rest => do
      if (← source) == .json && !rest.isEmpty then
        fault ("invalid length " ++ toString (index + rest.length) ++
          ", expected fewer elements in array")
      else return draft

def result (record : Record Draft α) (draft : Draft) : Decoding α :=
  match record.finish draft with
  | .ok value => return value
  | .error name => fault (Wording.missingField name)

def table (record : Record Draft α) : Decoding α := settled do
  let datum ← subject
  match entries? datum, datum with
  | some entries, _ => result record (← fields record record.blank entries)
  | none, .sequence _ items =>
      result record (← fieldsInOrder record 0 record.blank record.fields items)
  | none, _ => refused ("struct " ++ record.name)

end

def choice {α : Type} (name : String) (choices : List (String × α)) : Decoding α :=
  match choices.find? fun entry => entry.1 == name with
  | some entry => return entry.2
  | none => fault (Wording.unknownVariant name (choices.map Prod.fst))

/-- What has to stand under a choice that is given as a table: nothing. -/
def nothing : Decoding Unit := do
  let origin ← source
  match origin, ← subject with
  | .json, .scalar _ .null => return
  | .json, _ => refused "unit"
  | .toml, .sequence span items =>
      if !items.isEmpty then throw { message := "expected empty array", span }
  | .toml, .table span entries =>
      if !entries.isEmpty then throw { message := "expected empty table", span }
  | .toml, .scalar span scalar =>
      let found := match scalar with
        | .null => "none"
        | .boolean _ => "boolean"
        | .integer _ => "integer"
        | .double _ => "float"
        | .text _ => "string"
        | .moment _ => "datetime"
      throw { message := "expected table, found " ++ found, span }

def variant {α : Type} (choices : List (String × α)) : Decoding α := settled do
  let origin ← source
  match ← subject with
  | .scalar _ (.text name) => choice name choices
  | .table _ [(key, datum)] =>
      let chosen ← fun origin datum => placed key.span ((choice key.name choices).on origin datum)
      inside nothing datum
      return chosen
  | .table _ entries =>
      match origin with
      | .json => fault (Wording.invalidValue "map" "map with a single key")
      | .toml =>
          fault ("wanted exactly 1 element, " ++
            (if entries.isEmpty then "found 0 elements" else "more than 1 element"))
  | _ =>
      match origin with
      | .json => refused "string or map"
      | .toml => fault "wanted string or table"

end Decoding

end UiContract
