import UiContract.Double
import UiContract.Text.Quoted
import UiContract.Wording

/-!
Data without a type: scalars, sequences and tables, as a text of some format holds them. A datum that
was read from a text knows where it stands, so that what is wrong with it can be shown there.
-/
namespace UiContract

structure Span where
  first : Nat
  last : Nat
deriving DecidableEq, Repr

inductive Scalar where
  | null
  | boolean (value : Bool)
  | integer (value : Int)
  | double (value : Double)
  | text (value : String)
  | moment (value : String)
deriving DecidableEq, Repr

structure Key where
  name : String
  span : Option Span := none
deriving DecidableEq, Repr

inductive Datum where
  | scalar (span : Option Span) (value : Scalar)
  | sequence (span : Option Span) (items : List Datum)
  | table (span : Option Span) (entries : List (Key × Datum))
deriving Repr

namespace Datum

def span : Datum → Option Span
  | scalar span _ => span
  | sequence span _ => span
  | table span _ => span

def found (number : Double → String) : Datum → String
  | scalar _ .null => "null"
  | scalar _ (.boolean value) => Wording.boolean value
  | scalar _ (.integer value) => Wording.integer value
  | scalar _ (.double value) => "floating point " ++ Wording.marked (number value)
  | scalar _ (.text value) => "string " ++ Text.quoted value
  | scalar _ (.moment _) => "map"
  | sequence _ _ => "sequence"
  | table _ _ => "map"

end Datum

end UiContract
