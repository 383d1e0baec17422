import UiContract.Regex.Escapes

/-!
Sets of characters in brackets. A set has characters, ranges, named sets and sets inside it, and two
sets can be combined; sets are combined from the left. A bracket right behind the opening one and
hyphens there are characters of the set.
-/
namespace UiContract.Regex

def asciiSets : List (String × CharSet) :=
  [("alnum", ⟨[(0x30, 0x39), (0x41, 0x5A), (0x61, 0x7A)]⟩),
   ("alpha", ⟨[(0x41, 0x5A), (0x61, 0x7A)]⟩), ("ascii", ⟨[(0x00, 0x7F)]⟩),
   ("blank", ⟨[(0x09, 0x09), (0x20, 0x20)]⟩), ("cntrl", ⟨[(0x00, 0x1F), (0x7F, 0x7F)]⟩),
   ("digit", ⟨[(0x30, 0x39)]⟩), ("graph", ⟨[(0x21, 0x7E)]⟩), ("lower", ⟨[(0x61, 0x7A)]⟩),
   ("print", ⟨[(0x20, 0x7E)]⟩),
   ("punct", ⟨[(0x21, 0x2F), (0x3A, 0x40), (0x5B, 0x60), (0x7B, 0x7E)]⟩),
   ("space", ⟨[(0x09, 0x0D), (0x20, 0x20)]⟩), ("upper", ⟨[(0x41, 0x5A)]⟩),
   ("word", ⟨[(0x30, 0x39), (0x41, 0x5A), (0x5F, 0x5F), (0x61, 0x7A)]⟩),
   ("xdigit", ⟨[(0x30, 0x39), (0x41, 0x46), (0x61, 0x66)]⟩)]

def asciiSet? (characters : List Char) : Option (Nat × Bool × CharSet) := do
  let inside ← Text.afterStart? ['[', ':'] characters
  let negated := inside.head? == some '^'
  let named := if negated then inside.drop 1 else inside
  let name := named.takeWhile (· != ':')
  let _ ← Text.afterStart? [':', ']'] (named.drop name.length)
  let (_, set) ← asciiSets.find? fun entry => entry.1 == String.ofList name
  return (name.length + (if negated then 5 else 4), negated, set)

structure OpenSet where
  extent : Extent
  negated : Bool
  items : List SetItem

def plainItem (character : Char) : Reading Literal := do
  return { extent := ← nextExtent, character }

def leadingHyphens (start : Place) : Nat → List SetItem → Reading (List SetItem)
  | 0, items => return items
  | count + 1, items => do
      if (← peek) == some '-' then
        let item ← plainItem '-'
        let more ← stepAndSkip
        if more then leadingHyphens start count (items ++ [.literal item])
        else fault .setUnclosed start.here
      else return items

def openSet : Reading OpenSet := do
  let start ← place
  let more ← stepAndSkip
  if !more then faultSince .setUnclosed start
  else
    let negated := (← peek) == some '^'
    let more ← if negated then stepAndSkip else pure true
    if !more then faultSince .setUnclosed start
    else
      let hyphens ← leadingHyphens start (← ahead).length []
      if hyphens.isEmpty && (← peek) == some ']' then
        let item ← plainItem ']'
        let more ← stepAndSkip
        if more then return { extent := ← since start, negated, items := [.literal item] }
        else faultSince .setUnclosed start
      else return { extent := ← since start, negated, items := hyphens }

def itemOf : Node → Reading SetItem
  | .literal written => return .literal written
  | .set item => return item
  | other => fault .setEscape other.extent

def rangeEnd : Node → Reading Literal
  | .literal written => return written
  | other => fault .setRangeLiteral other.extent

def setAtom : Reading Node := do
  match ← peek with
  | some '\\' => escape
  | some character =>
      let item ← plainItem character
      take 1
      return .literal item
  | none => faultHere .escapeEnd

def setRange (opened : Extent) : Reading SetItem := do
  let first ← setAtom
  skipIgnored
  match ← peek with
  | none => fault .setUnclosed opened
  | some next =>
      let behind ← peekBehind
      if next != '-' || behind == some ']' || behind == some '-' then itemOf first
      else
        let more ← stepAndSkip
        if !more then fault .setUnclosed opened
        else
          let last ← setAtom
          let low ← rangeEnd first
          let high ← rangeEnd last
          let extent : Extent := ⟨low.extent.first, high.extent.last⟩
          if high.character < low.character then fault .setRange extent
          else return .range extent low high

def operation? : List Char → Option SetOperation
  | '&' :: '&' :: _ => some .intersection
  | '-' :: '-' :: _ => some .difference
  | '~' :: '~' :: _ => some .symmetricDifference
  | _ => none

def combinedWith (pending : Option (SetOperation × SetBody)) (items : List SetItem) : SetBody :=
  match pending with
  | none => .items items
  | some (operation, before) => .combined operation before (.items items)

def setRest : Nat → Extent → Option (SetOperation × SetBody) → List SetItem → Reading SetBody
  | 0, opened, _, _ => fault .setUnclosed opened
  | count + 1, opened, pending, items => do
      skipIgnored
      let rest ← ahead
      match rest, operation? rest, asciiSet? rest with
      | [], _, _ => fault .setUnclosed opened
      | ']' :: _, _, _ =>
          take 1
          return combinedWith pending items
      | _, some operation, _ =>
          take 2
          setRest count opened (some (operation, combinedWith pending items)) []
      | _, none, some (length, negated, set) =>
          let start ← place
          take length
          setRest count opened pending (items ++ [.ascii (← since start) negated set])
      | '[' :: _, none, none =>
          let inner ← openSet
          let body ← setRest count inner.extent none inner.items
          let whole ← since inner.extent.first
          setRest count opened pending (items ++ [.bracketed whole inner.negated body])
      | _, none, none => do
          let item ← setRange opened
          setRest count opened pending (items ++ [item])

def bracketedSet : Reading Node := do
  let opened ← openSet
  let body ← setRest ((← ahead).length + 1) opened.extent none opened.items
  return .set (.bracketed (← since opened.extent.first) opened.negated body)

end UiContract.Regex
