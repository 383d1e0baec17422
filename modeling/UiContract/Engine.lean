import UiContract.Glob
import UiContract.Regex.Expr

/-!
What runs regular expressions and globs can refuse what is well-formed: a pattern whose compiled states
take more than `sizeLimit` bytes, or a set of globs that cannot be built. The syntax of the patterns does not
settle how many bytes states take, so the engine is a parameter of everything that compiles a pattern, and
what is proved holds for every engine.
-/
namespace UiContract

class Engine where
  fits (source : String) (expr : Regex.Expr) : Bool
  globFault? (patterns : List Glob.Pattern) : Option String

namespace Regex

-- In bytes, as the refusal of an expression names it.
def sizeLimit : Nat := 10 * 1024 * 1024

namespace Expr

def rangeRoom (range : Nat × Nat) : Nat :=
  if range.2 < 0x80 then 8 else 56

def setRoom (set : CharSet) : Nat :=
  match set.ranges with
  | [(first, last)] =>
      if last < 0x80 then 32
      else if first == last then 32 * (if last < 0x800 then 2 else if last < 0x10000 then 3 else 4)
      else 400
  | ranges => (if set.isAscii then 32 else 350) + ranges.foldr (fun range total => rangeRoom range + total) 0

-- A rough count, too high for some expressions and too low for others: the program has to run with some
-- engine, and no theorem but the one about a name of half a million letters is about this one.
def room : Expr → Nat
  | empty => 0
  | set members => setRoom members
  | look _ => 32
  | seq first second => first.room + second.room
  | either first second => first.room + second.room + 36
  | repeated least most _ body =>
      match most with
      | some most => least * body.room + (most - least) * (body.room + 40)
      | none => max least 1 * body.room + 40

end Expr

end Regex

@[reducible] def Engine.rough : Engine where
  fits _ expr := expr.room ≤ Regex.sizeLimit
  globFault? _ := none

end UiContract
