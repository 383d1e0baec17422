import UiContract.Unicode.Properties

/-!
What patterns mean: expressions over sets of characters, positions, sequences, options and repetitions.
`Expr.ends` gives every place where an occurrence that begins at a place can end, and a text matches an
expression if there is one anywhere in it.
-/
namespace UiContract.Regex

inductive WordEdge where
  | boundary
  | noBoundary
  | start
  | close
  | startHalf
  | closeHalf
deriving DecidableEq, Repr

inductive Look where
  | textStart
  | textEnd
  | lineStart (carriageReturns : Bool)
  | lineEnd (carriageReturns : Bool)
  | word (edge : WordEdge) (unicode : Bool)
deriving DecidableEq, Repr

/-- An expression. Of two options the first one is preferred, and of two numbers of repetitions the
greater one if the repetition is greedy. -/
inductive Expr where
  | empty
  | set (set : CharSet)
  | look (look : Look)
  | seq (first second : Expr)
  | either (first second : Expr)
  | repeated (least : Nat) (most : Option Nat) (greedy : Bool) (body : Expr)
deriving DecidableEq, Repr

structure Point where
  before : Option Char
  rest : List Char
deriving DecidableEq, Repr

def asciiWordCharacters : CharSet :=
  ⟨[(0x30, 0x39), (0x41, 0x5A), (0x5F, 0x5F), (0x61, 0x7A)]⟩

def isWordCharacter (unicode : Bool) (character : Char) : Bool :=
  (if unicode then Unicode.wordCharacters else asciiWordCharacters).contains character

def WordEdge.holds (before behind : Bool) : WordEdge → Bool
  | boundary => before != behind
  | noBoundary => before == behind
  | start => !before && behind
  | close => before && !behind
  | startHalf => !before
  | closeHalf => !behind

def Look.holds (look : Look) (point : Point) : Bool :=
  let next := point.rest.head?
  match look with
  | textStart => point.before.isNone
  | textEnd => next.isNone
  | lineStart false => point.before.isNone || point.before == some '\n'
  | lineStart true =>
      point.before.isNone || point.before == some '\n' ||
        (point.before == some '\r' && next != some '\n')
  | lineEnd false => next.isNone || next == some '\n'
  | lineEnd true =>
      next.isNone || next == some '\r' || (next == some '\n' && point.before != some '\r')
  | word edge unicode =>
      edge.holds (point.before.any (isWordCharacter unicode)) (next.any (isWordCharacter unicode))

def reachedIn (next : Point → List Point) : Nat → List Point → List Point
  | 0, points => points
  | count + 1, points =>
      let more := (points ++ points.flatMap next).eraseDups
      if more.length == points.length then points else reachedIn next count more

def reachedAfter (next : Point → List Point) : Nat → List Point → List Point
  | 0, points => points
  | count + 1, points =>
      if points.isEmpty then []
      else reachedAfter next count (points.flatMap next).eraseDups

namespace Expr

def ends : Expr → Point → List Point
  | empty, point => [point]
  | set members, point =>
      match point.rest with
      | [] => []
      | character :: rest => if members.contains character then [⟨some character, rest⟩] else []
  | look asked, point => if asked.holds point then [point] else []
  | seq first second, point => ((first.ends point).flatMap second.ends).eraseDups
  | either first second, point => (first.ends point ++ second.ends point).eraseDups
  | repeated least most _ body, point =>
      let further := match most with
        | some most => min (most - least) (point.rest.length + 1)
        | none => point.rest.length + 1
      reachedIn body.ends further (reachedAfter body.ends least [point])

def occursFrom (expr : Expr) (before : Option Char) : List Char → Bool
  | [] => !(expr.ends ⟨before, []⟩).isEmpty
  | character :: rest =>
      !(expr.ends ⟨before, character :: rest⟩).isEmpty || expr.occursFrom (some character) rest

def occursIn (expr : Expr) (text : List Char) : Bool := expr.occursFrom none text

def ofSequence : List Expr → Expr
  | [] => empty
  | [expr] => expr
  | expr :: rest => seq expr (ofSequence rest)

def ofOptions : List Expr → Expr
  | [] => set CharSet.empty
  | [expr] => expr
  | expr :: rest => either expr (ofOptions rest)

def ofText (text : List Char) : Expr :=
  ofSequence (text.map fun character => set (CharSet.single character))

def isNullable : Expr → Bool
  | empty => true
  | set _ => false
  | look _ => true
  | seq first second => first.isNullable && second.isNullable
  | either first second => first.isNullable || second.isNullable
  | repeated least _ _ body => least == 0 || body.isNullable

def isEmptyOnly : Expr → Bool
  | empty => true
  | set _ => false
  | look _ => true
  | seq first second => first.isEmptyOnly && second.isEmptyOnly
  | either first second => first.isEmptyOnly && second.isEmptyOnly
  | repeated _ most _ body => most == some 0 || body.isEmptyOnly

/-- A repetition. What is always empty is not repeated more than once. -/
def repetition (least : Nat) (most : Option Nat) (greedy : Bool) (body : Expr) : Expr :=
  let least := if body.isEmptyOnly then min least 1 else least
  let most := if body.isEmptyOnly then some (min (most.getD 1) 1) else most
  if most == some 0 then empty
  else if least == 1 && most == some 1 then body
  else repeated least most greedy body

end Expr

end UiContract.Regex
