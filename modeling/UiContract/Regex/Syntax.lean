import UiContract.CharSet
import UiContract.Regex.Fault

/-!
The parts of a pattern as they are written. Every part that something can be wrong with later knows
where it stands.
-/
namespace UiContract.Regex

/-- A character of a pattern. One that is written as a byte counts as a byte where Unicode is off. -/
structure Literal where
  extent : Extent
  character : Char
  isByte : Bool := false
deriving DecidableEq, Repr

inductive Anchor where
  | lineStart
  | lineEnd
  | textStart
  | textEnd
  | wordBoundary
  | noWordBoundary
  | wordStart
  | wordEnd
  | wordStartHalf
  | wordEndHalf
deriving DecidableEq, Repr

inductive CharKind where
  | digit
  | space
  | word
deriving DecidableEq, Repr

inductive Property where
  | named (name : String)
  | valued (name value : String)
deriving DecidableEq, Repr

inductive SetOperation where
  | intersection
  | difference
  | symmetricDifference
deriving DecidableEq, Repr

mutual

inductive SetItem where
  | literal (literal : Literal)
  | range (extent : Extent) (first last : Literal)
  | ascii (extent : Extent) (negated : Bool) (set : CharSet)
  | kind (extent : Extent) (negated : Bool) (kind : CharKind)
  | property (extent : Extent) (negated : Bool) (property : Property)
  | bracketed (extent : Extent) (negated : Bool) (body : SetBody)

inductive SetBody where
  | items (items : List SetItem)
  | combined (operation : SetOperation) (first second : SetBody)

end

inductive Flag where
  | caseInsensitive
  | multiLine
  | dotMatchesAll
  | swapGreed
  | unicode
  | carriageReturns
  | ignoreBlanks
deriving DecidableEq, Repr

structure FlagChange where
  flag : Flag
  value : Bool
deriving DecidableEq, Repr

structure Bounds where
  least : Nat
  most : Option Nat
deriving DecidableEq, Repr

inductive Node where
  | empty (extent : Extent)
  | flags (extent : Extent) (changes : List FlagChange)
  | literal (literal : Literal)
  | anyCharacter (extent : Extent)
  | anchor (extent : Extent) (anchor : Anchor)
  | set (item : SetItem)
  | repetition (extent : Extent) (bounds : Bounds) (greedy : Bool) (body : Node)
  | group (extent : Extent) (changes : List FlagChange) (body : Node)
  | concat (extent : Extent) (parts : List Node)
  | choice (extent : Extent) (options : List Node)

def SetItem.extent : SetItem → Extent
  | literal written => written.extent
  | range extent _ _ => extent
  | ascii extent _ _ => extent
  | kind extent _ _ => extent
  | property extent _ _ => extent
  | bracketed extent _ _ => extent

def Node.extent : Node → Extent
  | empty extent => extent
  | flags extent _ => extent
  | literal written => written.extent
  | anyCharacter extent => extent
  | anchor extent _ => extent
  | set item => item.extent
  | repetition extent _ _ _ => extent
  | group extent _ _ => extent
  | concat extent _ => extent
  | choice extent _ => extent

def Node.ofParts (extent : Extent) : List Node → Node
  | [] => .empty extent
  | [part] => part
  | parts => .concat extent parts

/-- How changes set a flag, if they do; the first of them counts. -/
def flagState? (flag : Flag) (changes : List FlagChange) : Option Bool :=
  (changes.find? fun change => change.flag == flag).map FlagChange.value

end UiContract.Regex
