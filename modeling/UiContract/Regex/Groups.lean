import UiContract.Regex.Input
import UiContract.Unicode.PropertyNames

/-!
The beginning of a group: what it changes about flags, or its name. A group without a body changes
flags for what follows it.
-/
namespace UiContract.Regex

inductive Opening where
  | directive (extent : Extent) (changes : List FlagChange)
  | group (changes : List FlagChange)

def flagOf? : Char → Option Flag
  | 'i' => some .caseInsensitive
  | 'm' => some .multiLine
  | 's' => some .dotMatchesAll
  | 'U' => some .swapGreed
  | 'u' => some .unicode
  | 'R' => some .carriageReturns
  | 'x' => some .ignoreBlanks
  | _ => none

structure FlagItem where
  flag : Option Flag
  extent : Extent

def flagItem (items : List FlagItem) (letter : Char) : Reading FlagItem := do
  let extent ← nextExtent
  let flag ← if letter == '-' then pure none
    else match flagOf? letter with
      | some flag => pure (some flag)
      | none => fault .flagUnknown extent
  match items.find? fun item => item.flag == flag with
  | some before =>
      throw { kind := if flag.isNone then .flagRepeatedNegation else .flagDuplicate, extent,
              other := some before.extent }
  | none => return { flag, extent }

def flagItems : Nat → List FlagItem → Reading (List FlagItem)
  | 0, items => return items
  | count + 1, items => do
      match ← peek with
      | none => faultHere .flagEnd
      | some letter =>
          if letter == ':' || letter == ')' then return items
          else
            let item ← flagItem items letter
            take 1
            if ← atEnd then faultHere .flagEnd
            else flagItems count (items ++ [item])

def changesOf (value : Bool) : List FlagItem → List FlagChange
  | [] => []
  | { flag := none, .. } :: rest => changesOf false rest
  | { flag := some flag, .. } :: rest => { flag, value } :: changesOf value rest

def flagList : Reading (List FlagChange) := do
  let items ← flagItems ((← ahead).length + 1) []
  match items.getLast? with
  | some { flag := none, extent } => fault .flagDangling extent
  | _ => return changesOf true items

def isNameCharacter (first : Bool) (character : Char) : Bool :=
  character == '_' || Unicode.alphabetic.contains character ||
    (!first && (['.', '[', ']'].contains character || Unicode.numbers.contains character))

def nameCharacters : Nat → List Char → Reading (List Char)
  | 0, read => return read
  | count + 1, read => do
      match ← peek with
      | none => return read
      | some '>' => return read
      | some character =>
          if isNameCharacter read.isEmpty character then
            take 1
            nameCharacters count (character :: read)
          else faultNext .nameCharacter

def groupName : Reading Unit := do
  if ← atEnd then faultHere .nameEnd
  else
    let start ← place
    let read ← nameCharacters ((← ahead).length + 1) []
    let extent ← since start
    if ← atEnd then faultHere .nameEnd
    else
      take 1
      let name := String.ofList read.reverse
      if read.isEmpty then fault .nameEmpty start.here
      else match (← get).names.find? fun entry => entry.1 == name with
        | some before => throw { kind := .nameDuplicate, extent, other := some before.2 }
        | none => modify fun input => { input with names := (name, extent) :: input.names }

def lookArounds : List String := ["?=", "?!", "?<=", "?<!"]

def takeAnyText : List String → Reading Bool
  | [] => return false
  | text :: rest => do
      if ← takeText text then return true else takeAnyText rest

def opening (parenthesis : Extent) : Reading Opening := do
  take 1
  skipIgnored
  if ← takeAnyText lookArounds then faultSince .lookAround parenthesis.first
  else
    let inner ← place
    if ← takeAnyText ["?P<", "?<"] then
      groupName
      return .group []
    else if ← takeText "?" then
      if ← atEnd then fault .groupUnclosed parenthesis
      else
        let changes ← flagList
        let closed := (← peek) == some ')'
        let bare := (← place).offset == inner.offset + 1
        take 1
        if !closed then return .group changes
        else if bare then fault .repetitionMissing inner.here
        else return .directive (← since parenthesis.first) changes
    else return .group []

end UiContract.Regex
