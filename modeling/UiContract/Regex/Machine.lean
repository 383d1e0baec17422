import UiContract.Regex.Expr

/-!
Machines that find preferred occurrences. A machine is a list of instructions, each of which says where
to go on. All ways that are open are followed together, the preferred ones first, and of two ways that
meet at an instruction only the first one is followed, so that a run takes time in proportion to the
instructions and the text.
-/
namespace UiContract.Regex

inductive Instruction where
  | accept
  | consume (set : CharSet) (next : Nat)
  | check (look : Look) (next : Nat)
  | fork (first second : Nat)
deriving DecidableEq, Repr

structure Machine where
  code : Array Instruction
  start : Nat
deriving Repr

abbrev Assembling (α : Type) := StateM (Array Instruction) α

def emit (instruction : Instruction) : Assembling Nat := fun code =>
  (code.size, code.push instruction)

def patch (index : Nat) (instruction : Instruction) : Assembling Unit := fun code =>
  ((), code.setIfInBounds index instruction)

def repeatOrLeave (greedy : Bool) (again leave : Nat) : Instruction :=
  if greedy then .fork again leave else .fork leave again

def copies (assemble : Nat → Assembling Nat) : Nat → Nat → Assembling Nat
  | 0, next => return next
  | count + 1, next => do copies assemble count (← assemble next)

def optionalCopies (assemble : Nat → Assembling Nat) (greedy : Bool) (leave : Nat) :
    Nat → Nat → Assembling Nat
  | 0, next => return next
  | count + 1, next => do
      let start ← assemble next
      optionalCopies assemble greedy leave count (← emit (repeatOrLeave greedy start leave))

def loop (assemble : Nat → Assembling Nat) (greedy : Bool) (leave : Nat) :
    Assembling (Nat × Nat) := do
  let turn ← emit .accept
  let start ← assemble turn
  patch turn (repeatOrLeave greedy start leave)
  return (start, turn)

def Expr.assemble : Expr → Nat → Assembling Nat
  | .empty, next => return next
  | .set members, next => emit (.consume members next)
  | .look asked, next => emit (.check asked next)
  | .seq first second, next => do
      let rest ← second.assemble next
      first.assemble rest
  | .either first second, next => do
      let left ← first.assemble next
      let right ← second.assemble next
      emit (.fork left right)
  | .repeated least most greedy body, next => do
      match most, least with
      | some most, least =>
          let rest ← optionalCopies body.assemble greedy next (most - least) next
          copies body.assemble least rest
      | none, least + 1 => do
          let (start, _) ← loop body.assemble greedy next
          copies body.assemble least start
      | none, 0 => do
          let (start, turn) ← loop body.assemble greedy next
          if body.isNullable then emit (repeatOrLeave greedy start next) else return turn

def Machine.ofExpr (expr : Expr) : Machine :=
  let (start, code) := (do expr.assemble (← emit .accept) : Assembling Nat) #[]
  { code, start }

namespace Machine

/-- What is open at a point: the instructions that take a character, preferred ones first, and whether
an occurrence ends here. -/
structure Open where
  waiting : List Nat
  accepted : Bool

/-- Follows ways up to the instructions that take a character. Less preferred ways than one to the end
of an occurrence are dropped. The first number bounds the steps. -/
def follow (machine : Machine) (point : Point) : Nat → List Nat → Array Bool → List Nat → Open
  | 0, _, _, waiting => ⟨waiting.reverse, false⟩
  | _, [], _, waiting => ⟨waiting.reverse, false⟩
  | steps + 1, index :: others, seen, waiting =>
      if seen.getD index true then machine.follow point steps others seen waiting
      else
        let seen := seen.setIfInBounds index true
        match machine.code.getD index .accept with
        | .accept => ⟨waiting.reverse, true⟩
        | .consume _ _ => machine.follow point steps others seen (index :: waiting)
        | .check look next =>
            machine.follow point steps (if look.holds point then next :: others else others) seen
              waiting
        | .fork first second =>
            machine.follow point steps (first :: second :: others) seen waiting

def openAt (machine : Machine) (point : Point) (ways : List Nat) : Open :=
  machine.follow point (ways.length + 2 * machine.code.size + 1) ways
    (Array.replicate machine.code.size false) []

def after? (machine : Machine) (character : Char) (index : Nat) : Option Nat :=
  match machine.code.getD index .accept with
  | .consume set next => if set.contains character then some next else none
  | _ => none

/-- The length of the preferred occurrence, given the ways that are open, how much has been taken, and
the best length so far. -/
def run (machine : Machine) (ways : List Nat) (taken : Nat) (best : Option Nat)
    (before : Option Char) : List Char → Option Nat
  | [] =>
      if (machine.openAt ⟨before, []⟩ ways).accepted then some taken else best
  | character :: rest =>
      let here := machine.openAt ⟨before, character :: rest⟩ ways
      let best := if here.accepted then some taken else best
      let ways := here.waiting.filterMap (machine.after? character)
      if ways.isEmpty then best
      else machine.run ways (taken + 1) best (some character) rest

def lengthAt? (machine : Machine) (point : Point) : Option Nat :=
  machine.run [machine.start] 0 none point.before point.rest

end Machine

end UiContract.Regex
