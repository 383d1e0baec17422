import UiContract.Regex.Groups
import UiContract.Regex.Sets

/-!
Patterns: parts one after the other, repetitions of a part, groups, and options of which the first one
that fits is taken.
-/
namespace UiContract.Regex

def countDigits : Nat → List Char → Reading (List Char)
  | 0, read => return read
  | count + 1, read => do
      match ← peek with
      | none => return read
      | some digit =>
          if digit.isDigit then
            let _ ← stepAndSkip
            countDigits count (digit :: read)
          else return read

def skipBlanksAndIgnored : Nat → Reading Unit
  | 0 => return
  | count + 1 => do
      if (← peek).any Text.isBlank then
        let _ ← stepAndSkip
        skipBlanksAndIgnored count

def repetitionCount : Reading (Except Fault Nat) := do
  take ((← ahead).takeWhile Text.isBlank).length
  let start ← place
  let digits ← countDigits (← ahead).length []
  let extent ← since start
  skipBlanksAndIgnored (← ahead).length
  let value := Text.digitsValue 10 digits.reverse
  return if digits.isEmpty then .error { kind := .countMissing, extent }
    else if value < UInt32.size then .ok value
    else .error { kind := .decimalInvalid, extent }

def isRepeatable : Node → Bool
  | .empty _ => false
  | .flags _ _ => false
  | _ => true

def repetition (body : Node) (bounds : Bounds) (greedy : Bool) : Reading Node := do
  return .repetition (← since body.extent.first) bounds greedy body

def signedRepetition (body : Node) (bounds : Bounds) : Reading Node := do
  take 1
  let lazily := (← peek) == some '?'
  if lazily then take 1
  repetition body bounds (!lazily)

def bounds (start : Place) : Reading Bounds := do
  let least ← repetitionCount
  match ← peek with
  | none => faultSince .countUnclosed start
  | some ',' =>
      let more ← stepAndSkip
      if !more then faultSince .countUnclosed start
      else if (← peek) == some '}' then return ⟨← liftM least, none⟩
      else
        let least ← liftM least
        let most ← repetitionCount
        return ⟨least, some (← liftM most)⟩
  | some _ =>
      let count ← liftM least
      return ⟨count, some count⟩

def countedRepetition (body : Node) : Reading Node := do
  let start ← place
  let more ← stepAndSkip
  if !more then faultSince .countUnclosed start
  else
    let bounds ← bounds start
    if (← peek) != some '}' then faultSince .countUnclosed start
    else
      let more ← stepAndSkip
      let lazily := more && (← peek) == some '?'
      if lazily then take 1
      if bounds.most.any fun most => most < bounds.least then faultSince .countOrder start
      else repetition body bounds (!lazily)

def atom : Reading Node := do
  let extent ← nextExtent
  match ← peek with
  | some '\\' => escape
  | some '.' =>
      take 1
      return .anyCharacter extent
  | some '^' =>
      take 1
      return .anchor extent .lineStart
  | some '$' =>
      take 1
      return .anchor extent .lineEnd
  | some character =>
      take 1
      return .literal { extent, character }
  | none => faultHere .escapeEnd

def boundsOf? : Char → Option Bounds
  | '?' => some ⟨0, some 1⟩
  | '*' => some ⟨0, none⟩
  | '+' => some ⟨1, none⟩
  | _ => none

/-- What has been read of a pattern or of the inside of a group: where it began, its options so far,
where the current option began, and the parts of that one. The last ones come first. -/
structure Progress where
  start : Place
  options : List Node := []
  optionStart : Place
  parts : List Node := []

def Progress.option (progress : Progress) : Reading Node := do
  return Node.ofParts (← since progress.optionStart) progress.parts.reverse

def Progress.whole (progress : Progress) : Reading Node := do
  let last ← progress.option
  if progress.options.isEmpty then return last
  else return .choice (← since progress.start) (last :: progress.options).reverse

def Progress.repeatLast (progress : Progress) (repeated : Node → Reading Node) :
    Reading Progress := do
  match progress.parts with
  | body :: before =>
      if isRepeatable body then return { progress with parts := (← repeated body) :: before }
      else faultHere .repetitionMissing
  | [] => faultHere .repetitionMissing

def Progress.next (progress : Progress) (character : Char) : Reading Progress := do
  match character, boundsOf? character with
  | '[', _ => return { progress with parts := (← bracketedSet) :: progress.parts }
  | '{', _ => progress.repeatLast countedRepetition
  | _, some bounds => progress.repeatLast fun body => signedRepetition body bounds
  | _, none => return { progress with parts := (← atom) :: progress.parts }

def ignoreBlanks (ignoring : Bool) : Reading Unit := modify fun input => { input with ignoring }

/-- A pattern up to its end, or the inside of the group that was opened in a part of the pattern up to
its closing parenthesis. The number bounds it. -/
def sequence : Nat → Option Extent → Progress → Reading Node
  | 0, _, progress => progress.whole
  | count + 1, group, progress => do
      skipIgnored
      match ← peek with
      | none =>
          match group with
          | some parenthesis => fault .groupUnclosed parenthesis
          | none => progress.whole
      | some ')' => if group.isSome then progress.whole else faultNext .groupUnopened
      | some '|' =>
          let option ← progress.option
          take 1
          sequence count group
            { progress with options := option :: progress.options, optionStart := ← place, parts := [] }
      | some '(' =>
          let parenthesis ← nextExtent
          let outside := (← get).ignoring
          let opening ← opening parenthesis
          match opening with
          | .directive extent changes =>
              ignoreBlanks ((flagState? .ignoreBlanks changes).getD outside)
              sequence count group { progress with parts := .flags extent changes :: progress.parts }
          | .group changes =>
              ignoreBlanks ((flagState? .ignoreBlanks changes).getD outside)
              let start ← place
              let body ← sequence count (some parenthesis) { start, optionStart := start }
              ignoreBlanks outside
              take 1
              let inside := .group (← since parenthesis.first) changes body
              sequence count group { progress with parts := inside :: progress.parts }
      | some character => do
          let progress ← progress.next character
          sequence count group progress

mutual

def Node.tooDeep? (levels : Nat) : Node → Option Extent
  | .set item => item.tooDeep? levels
  | .repetition extent _ _ body =>
      if levels == 0 then some extent else body.tooDeep? (levels - 1)
  | .group extent _ body => if levels == 0 then some extent else body.tooDeep? (levels - 1)
  | .concat extent parts => if levels == 0 then some extent else anyTooDeep? (levels - 1) parts
  | .choice extent options =>
      if levels == 0 then some extent else anyTooDeep? (levels - 1) options
  | _ => none

def anyTooDeep? (levels : Nat) : List Node → Option Extent
  | [] => none
  | part :: rest => part.tooDeep? levels <|> anyTooDeep? levels rest

def SetItem.tooDeep? (levels : Nat) : SetItem → Option Extent
  | .bracketed extent _ body => if levels == 0 then some extent else body.tooDeep? (levels - 1) extent
  | _ => none

def SetBody.tooDeep? (levels : Nat) (extent : Extent) : SetBody → Option Extent
  | .items items =>
      let several := 2 ≤ items.length
      if several && levels == 0 then some extent
      else anyItemTooDeep? (if several then levels - 1 else levels) items
  | .combined _ first second =>
      if levels == 0 then some extent
      else first.tooDeep? (levels - 1) extent <|> second.tooDeep? (levels - 1) extent

def anyItemTooDeep? (levels : Nat) : List SetItem → Option Extent
  | [] => none
  | item :: rest => item.tooDeep? levels <|> anyItemTooDeep? levels rest

end

def depthLimit : Nat := 250

def parse (pattern : String) : Except Fault Node := do
  let characters := pattern.toList
  let start : Place := {}
  let (whole, _) ←
    (sequence (characters.length + 1) none { start, optionStart := start }) { rest := characters }
  match whole.tooDeep? depthLimit with
  | some extent => .error { kind := .tooDeep depthLimit, extent }
  | none => .ok whole

end UiContract.Regex
