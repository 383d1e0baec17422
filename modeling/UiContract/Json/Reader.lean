import UiContract.Datum
import UiContract.Json.Scalar
import UiContract.Record
import UiContract.SortedMap

/-!
Typed readings of JSON texts. A value is read as what it is expected to be, and the first thing that is
wrong is the answer, whether it is the text or the type. A table with fixed fields may also be given
as an array of its fields in order.
-/
namespace UiContract.Json

def scalarFound : Reading String := do
  match ← upcoming with
  | some 'n' =>
      word "null".toList
      return "null"
  | some 't' =>
      word "true".toList
      return Wording.boolean true
  | some 'f' =>
      word "false".toList
      return Wording.boolean false
  | some '"' =>
      step
      let value ← stringRest
      return "string " ++ Text.quoted value
  | some '[' => return "sequence"
  | some '{' => return "map"
  | some first =>
      if first == '-' || first.isDigit then return (← number).found else faultAhead noValue
  | none => faultAhead endInValue

def refused {α : Type} (expected : String) : Reading α :=
  settled do
    let found ← scalarFound
    mistake (Wording.invalidType found expected)

def stringOf (expected : String) : Reading String := do
  match ← upcoming with
  | some '"' =>
      step
      stringRest
  | none => faultAhead endInValue
  | _ => refused expected

def text : Reading String := stringOf "a string"

def boolean : Reading Bool := do
  match ← upcoming with
  | some 't' =>
      word "true".toList
      return true
  | some 'f' =>
      word "false".toList
      return false
  | none => faultAhead endInValue
  | _ => refused "a boolean"

def natural (limit : Nat) (expected : String) : Reading Nat := do
  match ← upcoming with
  | some first =>
      if first == '-' || first.isDigit then
        settled do
          match ← number with
          | .natural value =>
              if value < limit then return value
              else mistake (Wording.invalidValue (Wording.integer value) expected)
          | .negative value => mistake (Wording.invalidValue (Wording.integer value) expected)
          | .double value => mistake (Wording.invalidType (Number.double value).found expected)
      else refused expected
  | none => faultAhead endInValue

def natural32 : Reading Nat := natural UInt32.size "u32"

def size : Reading Nat := natural UInt64.size "usize"

def optional {α : Type} (reading : Reading α) : Reading (Option α) := do
  match ← upcoming with
  | some 'n' =>
      word "null".toList
      return none
  | none => faultAhead endInValue
  | _ => return some (← reading)

/-- Whether another item of an array follows. The first one has no comma in front. -/
def moreItems (first : Bool) : Reading Bool := do
  match ← upcoming with
  | none => faultAhead "EOF while parsing a list"
  | some ']' => return false
  | some sign =>
      if first then return true
      else if sign == ',' then
        step
        match ← upcoming with
        | some ']' => faultAhead "trailing comma"
        | some _ => return true
        | none => faultAhead endInValue
      else faultAhead "expected \x60,\x60 or \x60]\x60"

def arrayEnd : Reading Unit := do
  match ← upcoming with
  | some ']' => step
  | some ',' =>
      step
      match ← upcoming with
      | some ']' => faultAhead "trailing comma"
      | _ => faultAhead "trailing characters"
  | some _ => faultAhead "trailing characters"
  | none => faultAhead "EOF while parsing a list"

def moreEntries (first : Bool) : Reading Bool := do
  let start ← upcoming
  match start with
  | none => faultAhead "EOF while parsing an object"
  | some '}' => return false
  | some sign =>
      if !first && sign != ',' then faultAhead "expected \x60,\x60 or \x60\x7d\x60"
      else
        if !first then step
        match ← upcoming with
        | some '"' => return true
        | some '}' => faultAhead "trailing comma"
        | some _ => faultAhead "key must be a string"
        | none => faultAhead endInValue

def objectEnd : Reading Unit := do
  match ← upcoming with
  | some '}' => step
  | some ',' => faultAhead "trailing comma"
  | some _ => faultAhead "trailing characters"
  | none => faultAhead "EOF while parsing an object"

def colon : Reading Unit := do
  match ← upcoming with
  | some ':' => step
  | some _ => faultAhead "expected \x60:\x60"
  | none => faultAhead "EOF while parsing an object"

def key : Reading String := do
  step
  stringRest

def overItems {α : Type} (item : α → Reading α) : Nat → Bool → α → Reading α
  | 0, _, read => return read
  | count + 1, first, read => do
      if ← moreItems first then overItems item count false (← item read) else return read

def overEntries {α : Type} (entry : α → Reading α) : Nat → Bool → α → Reading α
  | 0, _, read => return read
  | count + 1, first, read => do
      if ← moreEntries first then overEntries entry count false (← entry read) else return read

def arrayOf {α : Type} (body : Reading α) : Reading α :=
  nested do
    step
    closedBy body arrayEnd

def objectOf {α : Type} (body : Reading α) : Reading α :=
  nested do
    step
    closedBy body objectEnd

def itemsOf {α : Type} (item : Reading α) : Reading (List α) := do
  let read ← overItems (fun read => return (← item) :: read) (← remaining) true []
  return read.reverse

def entriesOf {α : Type} (value : Reading α) : Reading (List (String × α)) := do
  let entry := fun read => do
    let name ← key
    colon
    return (name, ← value) :: read
  let read ← overEntries entry (← remaining) true []
  return read.reverse

def list {α : Type} (item : Reading α) : Reading (List α) := do
  match ← upcoming with
  | some '[' => settled (arrayOf (itemsOf item))
  | none => faultAhead endInValue
  | _ => refused "a sequence"

/-- A map from texts; the last value under a key counts. -/
def map {α : Type} (value : Reading α) : Reading (SortedMap String α) := do
  match ← upcoming with
  | some '{' => settled do return SortedMap.ofList (← objectOf (entriesOf value))
  | none => faultAhead endInValue
  | _ => refused "a map"

/-- Where the reading of a value that is not looked at stands: in front of a value, or behind one. The
openings of the arrays and objects around are kept, innermost first. -/
inductive Skipping where
  | value (around : List Char)
  | behind (around : List Char) (first : Bool)

def skipKey : Reading Unit := do
  match ← upcoming with
  | some '"' =>
      step
      skipString (← remaining)
  | some _ => faultAhead "key must be a string"
  | none => faultAhead "EOF while parsing an object"
  colon

def skipParts : Nat → Skipping → Reading Unit
  | 0, _ => return
  | _ + 1, .behind [] _ => return
  | count + 1, .value around => do
      match ← upcoming with
      | none => faultAhead endInValue
      | some first =>
          if first == '[' || first == '{' then
            step
            skipParts count (.behind (first :: around) true)
          else
            if first == 'n' then word "null".toList
            else if first == 't' then word "true".toList
            else if first == 'f' then word "false".toList
            else if first == '"' then
              step
              skipString (← remaining)
            else if first == '-' || first.isDigit then skipNumber
            else faultAhead noValue
            skipParts count (.behind around false)
  | count + 1, .behind (opening :: around) first => do
      let inArray := opening == '['
      match ← upcoming with
      | none =>
          faultAhead (if inArray then "EOF while parsing a list" else "EOF while parsing an object")
      | some sign =>
          if (inArray && sign == ']') || (!inArray && sign == '}') then
            step
            skipParts count (.behind around false)
          else if !first && sign != ',' then
            faultAhead (if inArray then "expected \x60,\x60 or \x60]\x60"
              else "expected \x60,\x60 or \x60\x7d\x60")
          else
            if !first then step
            if !inArray then skipKey
            skipParts count (.value (opening :: around))

def skipValue : Reading Unit := do
  skipParts (2 * (← remaining)) (.value [])

def anyValue : Nat → Reading Datum
  | 0 => faultAhead "recursion limit exceeded"
  | depth + 1 => do
      match ← upcoming with
      | none => faultAhead endInValue
      | some 'n' =>
          word "null".toList
          return .scalar none .null
      | some 't' =>
          word "true".toList
          return .scalar none (.boolean true)
      | some 'f' =>
          word "false".toList
          return .scalar none (.boolean false)
      | some '"' =>
          step
          return .scalar none (.text (← stringRest))
      | some '[' =>
          settled do return .sequence none (← arrayOf (itemsOf (anyValue depth)))
      | some '{' =>
          settled do
            let entries ← objectOf (entriesOf (anyValue depth))
            return .table none (entries.map fun (name, value) => ({ name }, value))
      | some first =>
          if first == '-' || first.isDigit then
            match ← number with
            | .natural value => return .scalar none (.integer value)
            | .negative value => return .scalar none (.integer value)
            | .double value => return .scalar none (.double value)
          else faultAhead noValue

def value : Reading Datum := anyValue 129

abbrev Field (Draft : Type) := RecordField Reading Draft

abbrev Record (Draft α : Type) := FieldRecord Reading Draft α

section

variable {Draft α : Type}

def fieldEntry (record : Record Draft α) (draft : Draft) : Reading Draft := do
  let name ← key
  match record.fields.find? fun field => field.name == name with
  | some field =>
      if field.known draft then mistake (Wording.duplicateField name)
      else
        colon
        field.read draft
  | none =>
      if record.closed then
        mistake (Wording.unknownField name record.fieldNames)
      else
        colon
        skipValue
        return draft

def result (record : Record Draft α) (draft : Draft) : Reading α :=
  match record.finish draft with
  | .ok value => return value
  | .error name => mistake (Wording.missingField name)

def fieldsInOrder (record : Record Draft α) (first : Bool) (index : Nat) (draft : Draft) :
    List (Field Draft) → Reading Draft
  | [] => return draft
  | field :: rest => do
      if ← moreItems first then fieldsInOrder record false (index + 1) (← field.read draft) rest
      else if field.optional then fieldsInOrder record first (index + 1) draft rest
      else
        mistake (Wording.invalidLength index ("struct " ++ record.name) record.fields.length)

def table (record : Record Draft α) : Reading α := do
  match ← upcoming with
  | some '{' =>
      settled <| objectOf do
        result record (← overEntries (fieldEntry record) (← remaining) true record.blank)
  | some '[' =>
      settled <| arrayOf do
        result record (← fieldsInOrder record true 0 record.blank record.fields)
  | none => faultAhead endInValue
  | _ => refused ("struct " ++ record.name)

end

def choice {α : Type} (name : String) (choices : List (String × α)) : Reading α :=
  match choices.find? fun entry => entry.1 == name with
  | some entry => return entry.2
  | none => mistake (Wording.unknownVariant name (choices.map Prod.fst))

def variant {α : Type} (choices : List (String × α)) : Reading α := do
  let named (expected : String) : Reading α := settled do
    choice (← stringOf expected) choices
  match ← upcoming with
  | some '"' => named "variant identifier"
  | some '{' =>
      let chosen ← nested do
        step
        let chosen ← named "variant identifier"
        colon
        match ← upcoming with
        | some 'n' => word "null".toList
        | none => faultAhead endInValue
        | _ => refused "unit"
        return chosen
      match ← upcoming with
      | some '}' =>
          step
          return chosen
      | some _ => faultHere noValue
      | none => faultHere "EOF while parsing an object"
  | some _ => faultAhead noValue
  | none => faultAhead endInValue

def decode {α : Type} (reading : Reading α) (text : String) : Except String α :=
  let whole : Reading α := do
    let value ← reading
    match ← upcoming with
    | some _ => faultAhead "trailing characters"
    | none => return value
  match (whole.run { rest := text.toList }).1 with
  | .ok value => .ok value
  | .error fault => .error fault.text

end UiContract.Json
