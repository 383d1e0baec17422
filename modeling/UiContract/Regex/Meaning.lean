import UiContract.Regex.Expr
import UiContract.Regex.Syntax
import UiContract.Unicode.CaseFolding
import UiContract.Unicode.PropertyNames

/-!
The expression of a pattern. Flags hold up to the end of the group in which they are set, over all its
options. Where Unicode is off, characters are bytes, and what could tear the bytes of a character apart
is refused.
-/
namespace UiContract.Regex

structure Flags where
  caseInsensitive : Bool := false
  multiLine : Bool := false
  dotMatchesAll : Bool := false
  swapGreed : Bool := false
  unicode : Bool := true
  carriageReturns : Bool := false
deriving DecidableEq, Repr

/-- The flags after a change. Whether blanks are ignored matters to reading only. -/
def Flags.changed (flags : Flags) (change : FlagChange) : Flags :=
  match change.flag with
  | .caseInsensitive => { flags with caseInsensitive := change.value }
  | .multiLine => { flags with multiLine := change.value }
  | .dotMatchesAll => { flags with dotMatchesAll := change.value }
  | .swapGreed => { flags with swapGreed := change.value }
  | .unicode => { flags with unicode := change.value }
  | .carriageReturns => { flags with carriageReturns := change.value }
  | .ignoreBlanks => flags

def Anchor.look (flags : Flags) : Anchor → Look
  | lineStart => if flags.multiLine then .lineStart flags.carriageReturns else .textStart
  | lineEnd => if flags.multiLine then .lineEnd flags.carriageReturns else .textEnd
  | textStart => .textStart
  | textEnd => .textEnd
  | wordBoundary => .word .boundary flags.unicode
  | noWordBoundary => .word .noBoundary flags.unicode
  | wordStart => .word .start flags.unicode
  | wordEnd => .word .close flags.unicode
  | wordStartHalf => .word .startHalf flags.unicode
  | wordEndHalf => .word .closeHalf flags.unicode

def closedUnderAsciiCase (set : CharSet) : CharSet :=
  let letters := (List.range 26).flatMap fun index =>
    let upper := 0x41 + index
    let lower := 0x61 + index
    if CharSet.inRanges upper set.ranges || CharSet.inRanges lower set.ranges then
      [(upper, upper), (lower, lower)]
    else []
  CharSet.ofRanges (set.ranges ++ letters)

def Flags.folded (flags : Flags) (set : CharSet) : CharSet :=
  if !flags.caseInsensitive then set
  else if flags.unicode then Unicode.closedUnderCase set
  else closedUnderAsciiCase set

def Flags.negated (flags : Flags) (set : CharSet) : CharSet :=
  if flags.unicode then set.complement else set.complement.intersection (CharSet.between 0 0xFF)

def Flags.whole (flags : Flags) (extent : Extent) (set : CharSet) : Except Fault CharSet :=
  if flags.unicode || set.isAscii then .ok set else .error { kind := .brokenUtf8, extent }

def Flags.foldedAndNegated (flags : Flags) (extent : Extent) (negated : Bool) (set : CharSet) :
    Except Fault CharSet :=
  let folded := flags.folded set
  flags.whole extent (if negated then flags.negated folded else folded)

def Literal.scalar (flags : Flags) (literal : Literal) : Except Fault Char :=
  if !flags.unicode && literal.isByte && 0x7F < literal.character.toNat then
    .error { kind := .brokenUtf8, extent := literal.extent }
  else .ok literal.character

def Literal.member (flags : Flags) (literal : Literal) : Except Fault Char := do
  let character ← literal.scalar flags
  if !flags.unicode && 0x7F < character.toNat then
    throw { kind := .unicodeNotAllowed, extent := literal.extent }
  return character

def CharKind.set (unicode : Bool) : CharKind → CharSet
  | digit => if unicode then Unicode.decimalNumbers else ⟨[(0x30, 0x39)]⟩
  | space => if unicode then Unicode.whiteSpace else ⟨[(0x09, 0x0D), (0x20, 0x20)]⟩
  | word => if unicode then Unicode.wordCharacters else asciiWordCharacters

def Property.set (extent : Extent) : Property → Except Fault CharSet
  | named name =>
      match Unicode.property? name with
      | some set => .ok set
      | none => .error { kind := .noProperty, extent }
  | valued name value =>
      match Unicode.propertyValue name value with
      | .ok set => .ok set
      | .error .noProperty => .error { kind := .noProperty, extent }
      | .error .noValue => .error { kind := .noPropertyValue, extent }

def SetOperation.apply : SetOperation → CharSet → CharSet → CharSet
  | intersection => CharSet.intersection
  | difference => CharSet.difference
  | symmetricDifference => CharSet.symmetricDifference

mutual

def SetItem.members (flags : Flags) : SetItem → Except Fault CharSet
  | .literal literal => do
      return CharSet.single (← literal.member flags)
  | .range _ first last => do
      let low ← first.member flags
      let high ← last.member flags
      return CharSet.between low.toNat high.toNat
  | .ascii extent negated set => flags.foldedAndNegated extent negated set
  | .kind extent negated kind =>
      let set := kind.set flags.unicode
      flags.whole extent (if negated then flags.negated set else set)
  | .property extent negated property => do
      if !flags.unicode then throw { kind := .unicodeNotAllowed, extent }
      flags.foldedAndNegated extent negated (← property.set extent)
  | .bracketed extent negated body => do
      flags.foldedAndNegated extent negated (← body.members flags)

def SetBody.members (flags : Flags) : SetBody → Except Fault CharSet
  | .items items => do return CharSet.unions (← allMembers flags items)
  | .combined operation first second => do
      let left ← first.members flags
      let right ← second.members flags
      return operation.apply (flags.folded left) (flags.folded right)

def allMembers (flags : Flags) : List SetItem → Except Fault (List CharSet)
  | [] => return []
  | item :: rest => do
      let set ← item.members flags
      return set :: (← allMembers flags rest)

end

def Literal.meaning (flags : Flags) (literal : Literal) : Except Fault Expr := do
  let character ← literal.scalar flags
  if flags.caseInsensitive && !flags.unicode && 0x7F < character.toNat then
    throw { kind := .unicodeNotAllowed, extent := literal.extent }
  return .set (flags.folded (CharSet.single character))

def Flags.anyCharacter (flags : Flags) : CharSet :=
  if flags.dotMatchesAll then CharSet.all
  else if flags.carriageReturns then (CharSet.ofText "\r\n").complement
  else (CharSet.single '\n').complement

mutual

def Node.meaning (flags : Flags) : Node → Except Fault (Expr × Flags)
  | .empty _ => .ok (.empty, flags)
  | .flags _ changes => .ok (.empty, changes.foldl Flags.changed flags)
  | .literal literal => do return (← literal.meaning flags, flags)
  | .anyCharacter extent =>
      if flags.unicode then .ok (.set flags.anyCharacter, flags)
      else .error { kind := .brokenUtf8, extent }
  | .anchor _ anchor => .ok (.look (anchor.look flags), flags)
  | .set item => do return (.set (← item.members flags), flags)
  | .repetition _ bounds greedy body => do
      let (expr, flags) ← body.meaning flags
      return (Expr.repetition bounds.least bounds.most (greedy != flags.swapGreed) expr, flags)
  | .group _ changes body => do
      let (expr, _) ← body.meaning (changes.foldl Flags.changed flags)
      return (expr, flags)
  | .concat _ parts => do
      let (exprs, flags) ← allMeanings flags parts
      return (Expr.ofSequence exprs, flags)
  | .choice _ options => do
      let (exprs, flags) ← allMeanings flags options
      return (Expr.ofOptions exprs, flags)

def allMeanings (flags : Flags) : List Node → Except Fault (List Expr × Flags)
  | [] => .ok ([], flags)
  | part :: rest => do
      let (expr, flags) ← part.meaning flags
      let (exprs, flags) ← allMeanings flags rest
      return (expr :: exprs, flags)

end

end UiContract.Regex
