import UiContract.Language
import UiContract.Script.Token

/-!
Where a statement may end without a semicolon: at the end of the text, before a closing brace, and at
the end of a line unless what follows goes on with the statement.
-/
namespace UiContract.Script

/-- What a statement that ends here would end with: an expression, which an operator may go on with,
a signature without a body, which a brace may go on with, or something else. -/
inductive Ending where
  | expression
  | signature
  | other
deriving DecidableEq, Repr

/-- What lies between the end of a statement and what follows: whether a line ends in it outside of
comments, whether one ends anywhere in it, and whether a comment stands on the first line. -/
structure Interval where
  lineEnd : Bool
  anyLineEnd : Bool
  commentFirst : Bool
  next : List Char

def intervalBefore (rest : List Char) : Interval :=
  let blank := rest.takeWhile isSpace
  let behind := (skipGap .space [] { rest } rest).1
  let gap := rest.take behind.position
  let breaks := fun character => character == '\n' || character == '\u2028' ||
    character == '\u2029'
  let plain := blank.any breaks
  let comment := blank.length < gap.length
  let lineComment := comment && (rest.drop blank.length)[1]? == some '/'
  { lineEnd := plain || (comment && (lineComment || (gap.reverse.takeWhile isSpace).any breaks)),
    anyLineEnd := gap.any breaks,
    commentFirst := comment && !plain,
    next := behind.rest }

def isContainment (rest : List Char) : Bool :=
  let letters := rest.takeWhile fun character => character.isAlpha
  letters == "in".toList || letters == "instanceof".toList

def goesOnAfterLine (language : Language) (ending : Ending) (rest : List Char) : Bool :=
  match rest with
  | [] => false
  | first :: behind =>
      let second := behind.head?.getD ' '
      if "`,:;*%><=?^|&/".toList.contains first then true
      else if first == '.' then
        if language == .javaScript then !second.isDigit else true
      else if first == '[' || first == '(' then
        language == .javaScript || ending == .expression
      else if first == '{' then language != .javaScript && ending == .signature
      else if first == '+' then second != '+'
      else if first == '-' then second != '-'
      else if first == '!' then second == '='
      else isContainment rest

def mayEnd (language : Language) (ending : Ending) (rest : List Char) : Bool :=
  let interval := intervalBefore rest
  match interval.next with
  | [] => true
  | '}' :: behind =>
      if language == .javaScript then true
      else (behind.dropWhile isSpace).head? != some ':' || ending == .expression
  | next =>
      if ending != .expression && interval.commentFirst && interval.anyLineEnd &&
          next.head? != some ',' && next.head? != some '=' then true
      else (interval.lineEnd || (ending != .expression && interval.anyLineEnd)) &&
        !goesOnAfterLine language ending next

def semicolon (language : Language) (ending : Ending) : Reading Unit := do
  let rest ← behindToken
  if (afterGap rest).head? == some ';' then
    skip
    take 1
  else if mayEnd language ending rest then skip
  else
    skip
    fail

def endsHere (language : Language) (ending : Ending) : Reading Bool := do
  return mayEnd language ending (← behindToken)

end UiContract.Script
