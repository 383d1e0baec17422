import UiContract.Text.Blank
import UiContract.Text.Pieces

/-!
The independent checks (`CheckId`), in the order in which they run and are reported, and the two levels of a
finding. `ofName?` reads a name as `from_str` does.
-/
namespace UiContract

/-- A check. The constructors stand in the order of reports. -/
inductive Check where
  | parse
  | registry
  | patterns
  | imports
  | shell
  | budgets
  | crossRef
deriving DecidableEq, Repr

namespace Check

def all : List Check := [parse, registry, patterns, imports, shell, budgets, crossRef]

def name : Check → String
  | parse => "parse"
  | registry => "registry"
  | patterns => "patterns"
  | imports => "imports"
  | shell => "shell"
  | budgets => "budgets"
  | crossRef => "cross-ref"

def rank : Check → Nat
  | parse => 0
  | registry => 1
  | patterns => 2
  | imports => 3
  | shell => 4
  | budgets => 5
  | crossRef => 6

def named : List (String × Check) := all.map fun check => (check.name, check)

instance : Ord Check := ⟨compareOn rank⟩

instance : Std.TransOrd Check := inferInstanceAs (Std.TransCmp (compareOn rank))

/-- The check of this name; blanks around it and the case of its letters do not count. -/
def ofName? (text : String) : Option Check :=
  let wanted := Text.lowerAscii (Text.trim text)
  all.find? fun check => check.name == wanted

def unknownMessage (text : String) : String :=
  "unknown check '" ++ text ++ "' (known: " ++ Text.join ", " (all.map name) ++ ")"

end Check

/-- How serious a finding is. Only errors fail a run. -/
inductive Level where
  | error
  | warning
deriving DecidableEq, Repr

namespace Level

def all : List Level := [error, warning]

def name : Level → String
  | error => "error"
  | warning => "warning"

def named : List (String × Level) := all.map fun level => (level.name, level)

end Level

end UiContract
