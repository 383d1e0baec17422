import UiContract.Unicode.Properties
import UiContract.Unicode.WritingSystems
import UiContract.Unicode.MoreWritingSystems

/-!
The names of properties. A name may be written in any case and with blanks, hyphens, underscores and a
leading `is`, which say nothing. A property is a general category, a writing system or another property
that a character has or has not.
-/
namespace UiContract.Unicode

def plainName (name : String) : String :=
  let given := name.toList
  let marked := (given.take 2).map Char.toLower == ['i', 's']
  let kept := ((if marked then given.drop 2 else given).filter fun character =>
    character.toNat < 0x80 && !(['-', '_', ' '].contains character)).map Char.toLower
  if marked && kept == ['c'] then "isc" else String.ofList kept

def numbers : CharSet := CharSet.unions [decimalNumbers, letterNumbers, otherNumbers]

def punctuation : CharSet :=
  CharSet.unions [connectorPunctuation, dashPunctuation, openPunctuation, closePunctuation,
    initialPunctuation, finalPunctuation, otherPunctuation]

def symbols : CharSet := CharSet.unions [mathSymbols, currencySymbols, modifierSymbols, otherSymbols]

def separators : CharSet := CharSet.unions [spaceSeparators, lineSeparators, paragraphSeparators]

def surrogates : CharSet := CharSet.between 0xD800 0xDFFF

def assigned : CharSet :=
  CharSet.unions [letters, marks, numbers, punctuation, symbols, separators, controls, formats,
    privateUse, surrogates]

def categories : List (List String × CharSet) :=
  [(["lu", "uppercaseletter"], uppercaseLetters), (["ll", "lowercaseletter"], lowercaseLetters),
   (["lt", "titlecaseletter"], titlecaseLetters),
   (["lc", "casedletter"],
     CharSet.unions [uppercaseLetters, lowercaseLetters, titlecaseLetters]),
   (["lm", "modifierletter"], modifierLetters), (["lo", "otherletter"], otherLetters),
   (["l", "letter"], letters), (["mn", "nonspacingmark"], nonspacingMarks),
   (["mc", "spacingmark"], spacingMarks), (["me", "enclosingmark"], enclosingMarks),
   (["m", "mark", "combiningmark"], marks), (["nd", "decimalnumber", "digit"], decimalNumbers),
   (["nl", "letternumber"], letterNumbers), (["no", "othernumber"], otherNumbers),
   (["n", "number"], numbers), (["pc", "connectorpunctuation"], connectorPunctuation),
   (["pd", "dashpunctuation"], dashPunctuation), (["ps", "openpunctuation"], openPunctuation),
   (["pe", "closepunctuation"], closePunctuation),
   (["pi", "initialpunctuation"], initialPunctuation),
   (["pf", "finalpunctuation"], finalPunctuation), (["po", "otherpunctuation"], otherPunctuation),
   (["p", "punctuation", "punct"], punctuation), (["sm", "mathsymbol"], mathSymbols),
   (["sc", "currencysymbol"], currencySymbols), (["sk", "modifiersymbol"], modifierSymbols),
   (["so", "othersymbol"], otherSymbols), (["s", "symbol"], symbols),
   (["zs", "spaceseparator"], spaceSeparators), (["zl", "lineseparator"], lineSeparators),
   (["zp", "paragraphseparator"], paragraphSeparators), (["z", "separator"], separators),
   (["cc", "control", "cntrl"], controls), (["cf", "format"], formats),
   (["cs", "surrogate"], surrogates), (["co", "privateuse"], privateUse),
   (["cn", "unassigned"], assigned.complement),
   (["c", "other"], CharSet.unions [controls, formats, surrogates, privateUse, assigned.complement]),
   (["any"], CharSet.all), (["ascii"], CharSet.ascii), (["assigned"], assigned)]

def properties : List (List String × CharSet) :=
  [(["alpha", "alphabetic"], alphabetic), (["upper", "uppercase"], uppercase),
   (["lower", "lowercase"], lowercase), (["space", "wspace", "whitespace"], whiteSpace),
   (["ids", "idstart"], identifierStart), (["idc", "idcontinue"], identifierContinue),
   (["xids", "xidstart"], stableIdentifierStart),
   (["xidc", "xidcontinue"], stableIdentifierContinue),
   (["ahex", "asciihexdigit"], asciiHexDigits), (["hex", "hexdigit"], hexDigits),
   (["joinc", "joincontrol"], joinControls), (["dash"], dashes),
   (["qmark", "quotationmark"], quotationMarks), (["ideo", "ideographic"], ideographs),
   (["emoji"], emoji), (["epres", "emojipresentation"], shownEmoji),
   (["emod", "emojimodifier"], emojiModifiers), (["ebase", "emojimodifierbase"], modifiableEmoji),
   (["ecomp", "emojicomponent"], emojiParts), (["extpict", "extendedpictographic"], pictographs)]

def named? (table : List (List String × CharSet)) (name : String) : Option CharSet :=
  (table.find? fun entry => entry.1.contains name).map Prod.snd

def writingSystem? (name : String) : Option CharSet :=
  named? earlyWritingSystems name <|> named? lateWritingSystems name

def property? (name : String) : Option CharSet :=
  let plain := plainName name
  named? properties plain <|> named? categories plain <|> writingSystem? plain

inductive PropertyFault where
  | noProperty
  | noValue
deriving DecidableEq, Repr

def propertyValue (name value : String) : Except PropertyFault CharSet :=
  let found (set : Option CharSet) : Except PropertyFault CharSet :=
    match set with
    | some set => .ok set
    | none => .error .noValue
  let plain := plainName name
  if ["gc", "generalcategory"].contains plain then found (named? categories (plainName value))
  else if ["sc", "script"].contains plain then found (writingSystem? (plainName value))
  else if (named? properties plain).isSome then .error .noValue
  else .error .noProperty

end UiContract.Unicode
