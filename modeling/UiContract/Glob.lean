import UiContract.Text.Utf8

/-!
Globs over paths, read character by character and matched byte by byte. `*` and `?` stop at a
slash, `**` as a whole piece crosses it, `[…]` is one byte of a set and may be a slash, and braces
hold a choice.

A glob is read into a `Pattern`, and `Pattern.remainders` says what a pattern leaves of an input;
a glob matches when it can leave nothing.
-/
namespace UiContract.Glob

inductive GlobError where
  | unclosedClass
  | invalidRange (low high : Char)
  | unopenedGroup
  | unclosedGroup
deriving DecidableEq, Repr

def GlobError.message : GlobError → String
  | unclosedClass => "unclosed character class; missing ']'"
  | invalidRange low high =>
      "invalid range; '" ++ low.toString ++ "' > '" ++ high.toString ++ "'"
  | unopenedGroup =>
      "unopened alternate group; missing '\x7b' (maybe escape '\x7d' with '[\x7d]'?)"
  | unclosedGroup =>
      "unclosed alternate group; missing '\x7d' (maybe escape '\x7b' with '[\x7b]'?)"

structure ByteSet where
  negated : Bool
  ranges : List (UInt8 × UInt8)
deriving DecidableEq, Repr

def ByteSet.accepts (bytes : ByteSet) (byte : UInt8) : Bool :=
  (bytes.ranges.any fun range => range.1 ≤ byte && byte ≤ range.2) != bytes.negated

def ByteSet.insidePiece : ByteSet := ⟨true, [(0x2F, 0x2F)]⟩

def ByteSet.anything : ByteSet := ⟨true, []⟩

inductive Pattern where
  | nothing
  | byte (accepted : ByteSet)
  | run (accepted : ByteSet)
  | both (first second : Pattern)
  | either (first second : Pattern)
deriving Repr

namespace Pattern

def runRemainders (accepted : ByteSet) : List UInt8 → List (List UInt8)
  | [] => [[]]
  | head :: rest =>
      (head :: rest) :: (if accepted.accepts head then runRemainders accepted rest else [])

def distinct (remainders : List (List UInt8)) : List (List UInt8) :=
  remainders.foldr (fun rest kept =>
    if kept.any (fun other => other.length == rest.length) then kept else rest :: kept) []

def remainders : Pattern → List (List UInt8) → List (List UInt8)
  | nothing, inputs => inputs
  | byte accepted, inputs => inputs.filterMap fun input => match input with
      | [] => none
      | first :: rest => if accepted.accepts first then some rest else none
  | run accepted, inputs => distinct (inputs.flatMap (runRemainders accepted))
  | both first second, inputs => second.remainders (first.remainders inputs)
  | either first second, inputs => distinct (first.remainders inputs ++ second.remainders inputs)

def accepts (pattern : Pattern) (input : List UInt8) : Bool :=
  (pattern.remainders [input]).any List.isEmpty

/-- One pattern after the other; nothing stays nothing. -/
def followedBy : Pattern → Pattern → Pattern
  | nothing, second => second
  | first, nothing => first
  | first, second => both first second

def sequence (patterns : List Pattern) : Pattern :=
  patterns.foldr followedBy nothing

def isNothing : Pattern → Bool
  | nothing => true
  | _ => false

/-- A choice between those patterns that ask for something; without any there is no choice. -/
def choice (patterns : List Pattern) : Pattern :=
  match (patterns.filter fun pattern => !pattern.isNothing).reverse with
  | [] => nothing
  | last :: others => others.foldl (fun rest pattern => either pattern rest) last

def exactly (bytes : List UInt8) : Pattern :=
  sequence (bytes.map fun value => byte ⟨false, [(value, value)]⟩)

def slash : Pattern := exactly [0x2F]

end Pattern

inductive Token where
  | literal (character : Char)
  | any
  | zeroOrMore
  | recursiveStart
  | recursiveEnd
  | recursiveMiddle
  | characterClass (negated : Bool) (ranges : List (Char × Char))
  | alternates (choices : Pattern)
deriving Repr

/-- The byte ranges that a range of characters is spelled with: the bytes of both ends stand next to
each other, with the range between the last byte of the first and the first byte of the second. -/
def byteRanges (range : Char × Char) : List (UInt8 × UInt8) :=
  let low := Text.encodeChar range.1
  let high := Text.encodeChar range.2
  if range.1 == range.2 then low.map fun byte => (byte, byte)
  else match low.getLast?, high with
    | some last, first :: rest =>
        low.dropLast.map (fun byte => (byte, byte)) ++ [(last, first)] ++
          rest.map fun byte => (byte, byte)
    | _, _ => []

def Token.pattern : Token → Pattern
  | literal character => Pattern.exactly (Text.encodeChar character)
  | any => Pattern.byte ByteSet.insidePiece
  | zeroOrMore => Pattern.run ByteSet.insidePiece
  | recursiveStart =>
      Pattern.either Pattern.nothing
        (Pattern.either Pattern.slash (Pattern.both (Pattern.run ByteSet.anything) Pattern.slash))
  | recursiveEnd => Pattern.both Pattern.slash (Pattern.run ByteSet.anything)
  | recursiveMiddle =>
      Pattern.either Pattern.slash
        (Pattern.both Pattern.slash (Pattern.both (Pattern.run ByteSet.anything) Pattern.slash))
  | characterClass negated ranges => Pattern.byte ⟨negated, ranges.flatMap byteRanges⟩
  | alternates choices => choices

def patternOf (reversed : List Token) : Pattern :=
  Pattern.sequence (reversed.reverse.map Token.pattern)

/-- A reader's place in a glob: the branches that are open, innermost first and each with its last
part first, and for each open group the number of branches outside it. -/
structure Reading where
  branch : List Token
  outer : List (List Token)
  groups : List Nat
deriving Repr

namespace Reading

def push (reading : Reading) (token : Token) : Reading :=
  { reading with branch := token :: reading.branch }

def openBranch (reading : Reading) : Reading :=
  { reading with branch := [], outer := reading.branch :: reading.outer }

def openGroup (reading : Reading) : Reading :=
  { reading.openBranch with groups := (reading.outer.length + 1) :: reading.groups }

def closeGroup (reading : Reading) : Except GlobError Reading :=
  match reading.groups with
  | [] => .error .unopenedGroup
  | outside :: groups =>
      let branches := reading.branch :: reading.outer
      let inside := branches.take (branches.length - outside)
      match branches.drop (branches.length - outside) with
      | [] => .error .unopenedGroup
      | branch :: outer =>
          let choices := Pattern.choice (inside.reverse.map patternOf)
          .ok { branch := Token.alternates choices :: branch, outer := outer, groups := groups }

end Reading

/-- The ranges of a class after one more character, last range first, and whether a dash has opened
a range. -/
def addToClass (first opened : Bool) (ranges : List (Char × Char)) (character : Char) :
    Except GlobError (Bool × List (Char × Char)) :=
  if character == '-' && first then .ok (false, ('-', '-') :: ranges)
  else if opened then match ranges with
    | (low, _) :: rest =>
        if character < low then .error (.invalidRange low character)
        else .ok (false, (low, character) :: rest)
    | [] => .ok (false, [(character, character)])
  else if character == '-' then .ok (true, ranges)
  else .ok (false, (character, character) :: ranges)

/-- Reads a class up to its closing bracket, which as the first member stands for itself. The result
holds the ranges and the number of characters read. -/
def readClass (first opened : Bool) (ranges : List (Char × Char)) (count : Nat) :
    List Char → Except GlobError (List (Char × Char) × Nat)
  | [] => .error .unclosedClass
  | ']' :: rest =>
      if first then readClass false false [(']', ']')] (count + 1) rest
      else .ok ((if opened then ('-', '-') :: ranges else ranges).reverse, count + 1)
  | character :: rest =>
      match addToClass first opened ranges character with
      | .error reason => .error reason
      | .ok (opened, ranges) => readClass false opened ranges (count + 1) rest

/-- What a pair of stars does, given the character before it and those behind it: the reading, and
whether the separator behind the stars is part of them. -/
def readStars (reading : Reading) (previous : Option Char) (following : Option Char) :
    Reading × Bool :=
  let plain := (reading.push Token.zeroOrMore).push Token.zeroOrMore
  let inGroup := !reading.outer.isEmpty
  if reading.branch.isEmpty then
    match following with
    | none => (reading.push Token.recursiveStart, false)
    | some '/' => (reading.push Token.recursiveStart, true)
    | some _ => (plain, false)
  else if previous != some '/' && !(inGroup && (previous == some ',' || previous == some '{')) then
    (plain, false)
  else
    let replaceLast (token : Token) : Reading := match reading.branch with
      | Token.recursiveStart :: _ => reading
      | Token.recursiveEnd :: _ => reading
      | _ :: rest => { reading with branch := token :: rest }
      | [] => reading
    match following with
    | none => (replaceLast Token.recursiveEnd, false)
    | some '/' => (replaceLast Token.recursiveMiddle, true)
    | some other =>
        if inGroup && (other == ',' || other == '}') then (replaceLast Token.recursiveEnd, false)
        else (plain, false)

/-- Reads the parts of a glob. The first argument counts characters that belong to the part read
last and are passed over. -/
def readParts (skip : Nat) (previous : Option Char) (reading : Reading) :
    List Char → Except GlobError Reading
  | [] => .ok reading
  | character :: rest =>
      if 0 < skip then readParts (skip - 1) (some character) reading rest
      else match character with
        | '?' => readParts 0 (some character) (reading.push Token.any) rest
        | '*' =>
            match rest with
            | '*' :: behind =>
                let (next, takesSlash) := readStars reading previous behind.head?
                readParts (if takesSlash then 2 else 1) (some character) next rest
            | _ => readParts 0 (some character) (reading.push Token.zeroOrMore) rest
        | '[' =>
            let negated := rest.head? == some '!' || rest.head? == some '^'
            match readClass true false [] 0 (if negated then rest.drop 1 else rest) with
            | .error reason => .error reason
            | .ok (ranges, count) =>
                readParts (if negated then count + 1 else count) (some character)
                  (reading.push (Token.characterClass negated ranges)) rest
        | '{' => readParts 0 (some character) reading.openGroup rest
        | '}' =>
            match reading.closeGroup with
            | .error reason => .error reason
            | .ok next => readParts 0 (some character) next rest
        | ',' =>
            let next := if reading.groups.isEmpty then reading.push (Token.literal ',')
              else reading.openBranch
            readParts 0 (some character) next rest
        | other => readParts 0 (some character) (reading.push (Token.literal other)) rest

/-- Reads a glob. A glob of two stars alone asks for nothing in particular. -/
def parse (glob : List Char) : Except GlobError Pattern :=
  match readParts 0 none ⟨[], [], []⟩ glob with
  | .error reason => .error reason
  | .ok reading =>
      if !reading.outer.isEmpty then .error .unclosedGroup
      else match reading.branch with
        | [Token.recursiveStart] => .ok (Pattern.run ByteSet.anything)
        | branch => .ok (patternOf branch)

end UiContract.Glob
