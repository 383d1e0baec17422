import UiContract.Engine
import UiContract.Regex.Machine
import UiContract.Regex.Meaning
import UiContract.Regex.Pattern
import UiContract.Text.Lines

/-!
Regular expressions: reading a pattern, and looking for its occurrences in a text. Occurrences are found
from the left, do not overlap, and are the preferred ones where they begin.
-/
namespace UiContract

open Regex in
structure Regex where
  source : String
  expr : Expr
  machine : Machine

inductive RegexError where
  | fault (pattern : String) (fault : Regex.Fault)
  | tooLarge
deriving DecidableEq, Repr

namespace Regex

def ofExpr [Engine] (source : String) (expr : Expr) : Except RegexError Regex :=
  if Engine.fits source expr then .ok { source, expr, machine := Machine.ofExpr expr }
  else .error .tooLarge

def compile [Engine] (source : String) : Except RegexError Regex :=
  match parse source >>= Node.meaning {} with
  | .error fault => .error (.fault source fault)
  | .ok (expr, _) => ofExpr source expr

def isMatch (regex : Regex) (text : String) : Bool := regex.expr.occursIn text.toList

structure Span where
  start : Nat
  text : List Char
deriving DecidableEq, Repr

/-- The occurrences from a place on, behind some characters that belong to one before. An empty
occurrence is passed over with the character behind it. -/
def spansFrom (machine : Machine) (before : Option Char) (place : Nat) :
    Nat → List Char → List Span
  | _, [] => []
  | taken + 1, character :: rest =>
      spansFrom machine (some character) (place + Text.charSize character) taken rest
  | 0, character :: rest =>
      let next := place + Text.charSize character
      match machine.lengthAt? ⟨before, character :: rest⟩ with
      | some (length + 1) =>
          ⟨place, (character :: rest).take (length + 1)⟩ ::
            spansFrom machine (some character) next length rest
      | _ => spansFrom machine (some character) next 0 rest

def spans (regex : Regex) (text : String) : List Span :=
  spansFrom regex.machine none 0 0 text.toList

structure Occurrence where
  line : Nat
  text : List Char
deriving DecidableEq, Repr

def Span.occurrence (starts : Array Nat) (span : Span) : Occurrence :=
  ⟨Text.lineAt starts span.start, span.text⟩

def occurrences (regex : Regex) (text : String) : List Occurrence :=
  let starts := Text.lineStarts text.toList
  (regex.spans text).map (Span.occurrence starts)

def escaped (text : String) : String :=
  String.ofList <| text.toList.flatMap fun character =>
    if isMeta character then ['\\', character] else [character]

def wholeWord [Engine] (texts : List String) : Except RegexError Regex :=
  let options := if texts.isEmpty then [""] else texts
  let boundary := Expr.look (.word .boundary true)
  ofExpr ("\\b(?:" ++ Text.join "|" (texts.map escaped) ++ ")\\b")
    (.ofSequence [boundary, .ofOptions (options.map fun text => Expr.ofText text.toList), boundary])

end Regex

def RegexError.message : RegexError → String
  | fault pattern reason => reason.describe pattern
  | tooLarge =>
      "Compiled regex exceeds size limit of " ++ toString Regex.sizeLimit ++ " bytes."

end UiContract
