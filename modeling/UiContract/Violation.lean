import UiContract.Check
import UiContract.SortedMap

/-!
One finding of a check (`Violation`), and the order of findings in a report: by check, subject, line and
message, findings without a line first. The order is kept by a stable sort, so findings that agree in all
four stay as they were found.
-/
namespace UiContract

structure Violation where
  rule : Check
  subject : String
  level : Level
  message : String
  hint : Option String := none
  line : Option Nat := none
deriving DecidableEq, Repr

namespace Violation

def error (rule : Check) (subject message : String) : Violation :=
  { rule, subject, level := .error, message }

def warning (rule : Check) (subject message : String) : Violation :=
  { rule, subject, level := .warning, message }

def configuration (rule : Check) (subject message : String) : Violation :=
  error rule subject ("configuration error: " ++ message)

/-- Adds a hint; a blank one is left out. -/
def withHint (violation : Violation) (hint : String) : Violation :=
  if Text.isBlankText hint then violation else { violation with hint := some hint }

def atLine (violation : Violation) (line : Nat) : Violation :=
  { violation with line := some line }

def isError (violation : Violation) : Bool :=
  violation.level == .error

def order : Violation → Violation → Ordering :=
  compareLex (compareOn rule) <| compareLex (compareOn subject) <|
    compareLex (compareOn line) (compareOn message)

instance : Std.TransCmp order :=
  inferInstanceAs (Std.TransCmp (compareLex (compareOn rule) (compareLex (compareOn subject)
    (compareLex (compareOn line) (compareOn message)))))

def sort (violations : List Violation) : List Violation :=
  violations.mergeSort fun first second => (order first second).isLE

def countErrors (violations : List Violation) : Nat :=
  violations.countP isError

end Violation

end UiContract
