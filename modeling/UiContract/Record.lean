/-!
Tables with fixed fields, whatever they are read from. What is known of a table while it is read is
kept in a draft; at the end it gives the result or the name of a field that is missing.
-/
namespace UiContract

/-- A field of a table: how it is read into a draft, whether a draft knows it, and whether an array of
the fields may end before it. -/
structure RecordField (Reading : Type → Type) (Draft : Type) where
  name : String
  read : Draft → Reading Draft
  known : Draft → Bool
  optional : Bool := false

/-- A table with fixed fields: its name, whether it has no others, the draft of nothing, and the result
of a draft. -/
structure FieldRecord (Reading : Type → Type) (Draft α : Type) where
  name : String
  fields : List (RecordField Reading Draft)
  closed : Bool := false
  blank : Draft
  finish : Draft → Except String α

def FieldRecord.fieldNames {Reading : Type → Type} {Draft α : Type}
    (record : FieldRecord Reading Draft α) : List String :=
  record.fields.map RecordField.name

def needed {α : Type} (name : String) : Option α → Except String α
  | some value => .ok value
  | none => .error name

end UiContract
