import UiContract.Datum

/-!
Tables while they are put together. A table is made by its header, by the header of a table inside it
or by a dotted key, and only some of these may be added to later. What is done twice or against the
type of what is there has a reason in words.
-/
namespace UiContract.Toml

structure Origin where
  implicit : Bool := false
  dotted : Bool := false
  span : Option Span := none
deriving DecidableEq, Repr

inductive Node where
  | value (datum : Datum)
  | table (origin : Origin) (entries : List (Key × Node))
  | tables (elements : List Node)
deriving Repr

inductive TableFault where
  | duplicate (key : String) (place : Option (List String))
  | notTable (path : List String) (found : String)
deriving DecidableEq, Repr

def TableFault.message : TableFault → String
  | duplicate key none => "duplicate key " ++ Wording.marked key
  | duplicate key (some []) => "duplicate key " ++ Wording.marked key ++ " in document root"
  | duplicate key (some place) =>
      "duplicate key " ++ Wording.marked key ++ " in table " ++ Wording.marked (Text.join "." place)
  | notTable path found =>
      "dotted key " ++ Wording.marked (Text.join "." path) ++
        " attempted to extend non-table type (" ++ found ++ ")"

def typeName : Datum → String
  | .scalar _ (.text _) => "string"
  | .scalar _ (.integer _) => "integer"
  | .scalar _ (.double _) => "float"
  | .scalar _ (.boolean _) => "boolean"
  | .scalar _ (.moment _) => "datetime"
  | .scalar _ .null => "none"
  | .sequence _ _ => "array"
  | .table _ _ => "inline table"

namespace Node

def empty : Node := table {} []

def origin : Node → Origin
  | table origin _ => origin
  | _ => {}

def entries : Node → List (Key × Node)
  | table _ entries => entries
  | _ => []

def withOrigin (origin : Origin) : Node → Node
  | table _ entries => table origin entries
  | other => other

def find? (name : String) (node : Node) : Option Node :=
  (node.entries.find? fun entry => entry.1.name == name).map Prod.snd

/-- Puts something under a key; a key that is there keeps its place. -/
def insert (node : Node) (key : Key) (inner : Node) : Node :=
  let entries := node.entries
  let replaced := if entries.any fun entry => entry.1.name == key.name then
    entries.map fun entry => if entry.1.name == key.name then (entry.1, inner) else entry
  else entries ++ [(key, inner)]
  table node.origin replaced

def remove (name : String) (node : Node) : Node :=
  table node.origin (node.entries.filter fun entry => entry.1.name != name)

def lastTable? : Node → Option Node
  | tables elements => elements.getLast?
  | _ => none

def replaceLast : Node → Node → Node
  | tables elements, inner => tables (elements.dropLast ++ [inner])
  | other, _ => other

structure Descent where
  dotted : Bool
  inline : Bool := false

/-- Changes the table that a path leads to. Tables on the way that are not there are made. The first
path is the part that has been gone. -/
def descend (descent : Descent) (change : Node → Except TableFault Node) :
    List String → List Key → Node → Except TableFault Node
  | _, [], node => change node
  | gone, key :: rest, node =>
      let gone := gone ++ [key.name]
      match node.find? key.name with
      | none => do
          let fresh := table { implicit := !descent.inline || descent.dotted,
                               dotted := descent.dotted } []
          return node.insert key (← descend descent change gone rest fresh)
      | some (value datum) =>
          match datum, descent.inline with
          | .table _ _, true => .error (.duplicate key.name none)
          | _, _ => .error (.notTable gone (typeName datum))
      | some (tables elements) => do
          let inner ← descend descent change gone rest ((tables elements).lastTable?.getD empty)
          return node.insert key ((tables elements).replaceLast inner)
      | some inner =>
          if descent.dotted && !inner.origin.implicit then .error (.duplicate key.name none)
          else do return node.insert key (← descend descent change gone rest inner)

def addValue (place : Option (List String)) (inline : Bool) (path : List Key) (key : Key)
    (datum : Datum) (node : Node) : Except TableFault Node :=
  let dotted := !path.isEmpty
  node |> descend { dotted, inline } (fun inner =>
    if inner.origin.dotted != dotted then .error (.duplicate key.name none)
    else if (inner.find? key.name).isSome then .error (.duplicate key.name place)
    else .ok (inner.insert key (value datum))) [] path

def spanOver : Option Datum → Option Datum → Option Span
  | some first, some last => do return ⟨(← first.span).first, (← last.span).last⟩
  | _, _ => none

mutual

def datum : Node → Datum
  | value datum => datum
  | table origin entries => .table origin.span (data entries)
  | tables elements =>
      let items := items elements
      .sequence (spanOver items.head? items.getLast?) items

def data : List (Key × Node) → List (Key × Datum)
  | [] => []
  | (key, node) :: rest => (key, datum node) :: data rest

def items : List Node → List Datum
  | [] => []
  | node :: rest => datum node :: items rest

end

end Node

/-- A document while it is put together: everything above the current table, that table, the path of
its header, and whether it belongs to an array of tables. -/
structure Assembly where
  root : Node := .empty
  current : Node := .table { span := some ⟨0, 0⟩ } []
  path : List Key := []
  inArray : Bool := false

namespace Assembly

def isBare (name : String) : Bool :=
  name != "" && name.toList.all fun character =>
    character.isAlphanum || character == '_' || character == '-'

def headerDuplicate (path : List Key) : TableFault :=
  let name := match path.getLast? with
    | some key => if isBare key.name then key.name else Text.quoted key.name
    | none => ""
  .duplicate name (some (path.dropLast.map Key.name))

def addEntry (assembly : Assembly) (path : List Key) (key : Key) (datum : Datum) :
    Except TableFault Assembly := do
  let origin := assembly.current.origin
  let span := match origin.span, datum.span with
    | some whole, some value => some ⟨whole.first, value.last⟩
    | known, _ => known
  let current := assembly.current.withOrigin { origin with span }
  let place := assembly.path.map Key.name
  return { assembly with current := ← current.addValue (some place) false path key datum }

def close (assembly : Assembly) : Except TableFault Assembly :=
  match assembly.path.getLast? with
  | none => .ok { root := assembly.current, current := .empty }
  | some key => do
      let put (parent : Node) : Except TableFault Node :=
        if assembly.inArray then
          match (parent.find? key.name).getD (.tables []) with
          | .tables elements => .ok (parent.insert key (.tables (elements ++ [assembly.current])))
          | _ => .error (headerDuplicate assembly.path)
        else
          match parent.find? key.name with
          | none => .ok (parent.insert key assembly.current)
          | some (.table origin _) =>
              if origin.implicit then .ok (parent.insert key assembly.current)
              else .error (headerDuplicate assembly.path)
          | some _ => .error (headerDuplicate assembly.path)
      let root ← Node.descend { dotted := false } put [] assembly.path.dropLast assembly.root
      return { root, current := .empty }

def reopened (path : List Key) (found : Option Node) : Except TableFault Node :=
  match found with
  | none => .ok .empty
  | some (.table origin entries) =>
      if origin.implicit && !origin.dotted then .ok (.table origin entries)
      else .error (headerDuplicate path)
  | some _ => .error (headerDuplicate path)

def openTable (assembly : Assembly) (path : List Key) (span : Span) :
    Except TableFault Assembly := do
  let closed ← assembly.close
  match path.getLast? with
  | none => return closed
  | some key =>
      let take (parent : Node) : Except TableFault Node := do
        let _ ← reopened path (parent.find? key.name)
        return parent.remove key.name
      let parent := path.dropLast
      let made ← Node.descend { dotted := false } .ok [] parent closed.root
      let root ← Node.descend { dotted := false } take [] parent made
      let found := (parent.foldl (fun node key => node.bind fun node =>
        match node.find? key.name with
        | some (.tables elements) => elements.getLast?
        | other => other) (some made)).bind (Node.find? key.name)
      let current ← reopened path found
      return { root, current := current.withOrigin { span := some span }, path, inArray := false }

def openArray (assembly : Assembly) (path : List Key) (span : Span) :
    Except TableFault Assembly := do
  let closed ← assembly.close
  match path.getLast? with
  | none => return closed
  | some key =>
      let check (parent : Node) : Except TableFault Node :=
        match parent.find? key.name with
        | none => .ok (parent.insert key (.tables []))
        | some (.tables _) => .ok parent
        | some _ => .error (headerDuplicate path)
      let root ← Node.descend { dotted := false } check [] path.dropLast closed.root
      return { root, current := .table { span := some span } [], path, inArray := true }

def finish (assembly : Assembly) : Except TableFault Datum := do
  return (← assembly.close).root.datum

end Assembly

end UiContract.Toml
