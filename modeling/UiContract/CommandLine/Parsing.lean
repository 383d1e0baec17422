import UiContract.Check
import UiContract.CommandLine.Argument
import UiContract.Text.Similarity

/-!
Reading a command line. A value stands behind an equals sign or is the word that follows; a word that
waits for nothing is no argument. What is wrong with a value is told when the next argument comes, and
an argument that does not exist is told before that.
-/
namespace UiContract.CommandLine

structure Settings where
  root : String := "."
  config : Option String := none
  strict : Bool := false
  checks : List Check := []
  json : Bool := false
  why : Option String := none
  verbose : Bool := false
  quiet : Bool := false
deriving DecidableEq, Repr

inductive ArgumentError where
  | unexpected (word : String) (similar : Option Argument) (shownWith : List Argument)
  | unexpectedValue (value : String) (argument : Argument) (shownWith : List Argument)
  | valueMissing (argument : Argument)
  | invalidValue (argument : Argument) (value reason : String)
  | repeated (argument : Argument)
  | conflict (first second : Argument) (shownWith : List Argument)
deriving DecidableEq, Repr

def ArgumentError.parts : ArgumentError → String × Option (List Argument)
  | unexpected word similar shownWith =>
      let tip := match similar with
        | some argument =>
            "\n\n  tip: a similar argument exists: '--" ++ argument.longName ++ "'"
        | none => ""
      ("unexpected argument '" ++ word ++ "' found" ++ tip, some shownWith)
  | unexpectedValue value argument shownWith =>
      ("unexpected value '" ++ value ++ "' for '" ++ argument.shown ++
        "' found; no more were expected", some shownWith)
  | valueMissing argument =>
      ("a value is required for '" ++ argument.shown ++ "' but none was supplied", none)
  | invalidValue argument value reason =>
      ("invalid value '" ++ value ++ "' for '" ++ argument.shown ++ "': " ++ reason, none)
  | repeated argument =>
      ("the argument '" ++ argument.shown ++ "' cannot be used multiple times", some [])
  | conflict first second shownWith =>
      ("the argument '" ++ first.shown ++ "' cannot be used with '" ++ second.shown ++ "'",
        some shownWith)

def ArgumentError.message (error : ArgumentError) : String :=
  let (reason, shownWith) := error.parts
  "error: " ++ reason ++ "\n\n" ++ (match shownWith with
    | some arguments => usage arguments ++ "\n\n"
    | none => "") ++ "For more information, try '--help'.\n"

inductive Stop where
  | help
  | version
  | error (error : ArgumentError)
deriving DecidableEq, Repr

/-- A command line while it is read: the arguments that were given, in the order in which they came
first, what they ask for, and an argument with its value, or without one while it waits for that. -/
structure Parsing where
  given : List Argument := []
  settings : Settings := {}
  pending : Option (Argument × Option String) := none
  trailing : Bool := false

namespace Parsing

def note (argument : Argument) (parsing : Parsing) : Parsing :=
  if parsing.given.contains argument then parsing
  else { parsing with given := parsing.given ++ [argument] }

def setting (parsing : Parsing) (change : Settings → Settings) : Parsing :=
  { parsing with settings := change parsing.settings }

def going (parsing : Parsing) : Parsing × Option Stop := (parsing, none)

def failing (parsing : Parsing) (error : ArgumentError) : Parsing × Option Stop :=
  (parsing, some (.error error))

def once (argument : Argument) (change : Settings → Settings) (parsing : Parsing) :
    Parsing × Option Stop :=
  if parsing.given.contains argument then
    { parsing with given := parsing.given.filter (· != argument) }.failing (.repeated argument)
  else ((parsing.note argument).setting change).going

def withPath (argument : Argument) (change : String → Settings → Settings) (value : Option String)
    (parsing : Parsing) : Parsing × Option Stop :=
  match value with
  | none => parsing.failing (.valueMissing argument)
  | some path =>
      match parsing.once argument (change path) with
      | (taken, none) =>
          if path == "" then (parsing.note argument).failing (.valueMissing argument) else taken.going
      | stopped => stopped

def store (argument : Argument) (value : Option String) (parsing : Parsing) :
    Parsing × Option Stop :=
  match argument with
  | .root => parsing.withPath .root (fun path settings => { settings with root := path }) value
  | .config =>
      parsing.withPath .config (fun path settings => { settings with config := some path }) value
  | .why => parsing.withPath .why (fun path settings => { settings with why := some path }) value
  | .check =>
      match value with
      | none => parsing.failing (.valueMissing .check)
      | some name =>
          match Check.ofName? name with
          | none => (parsing.note .check).failing (.invalidValue .check name (Check.unknownMessage name))
          | some check =>
              ((parsing.note .check).setting fun settings =>
                { settings with checks := settings.checks ++ [check] }).going
  | .strict => parsing.once .strict fun settings => { settings with strict := true }
  | .json => parsing.once .json fun settings => { settings with json := true }
  | .verbose => parsing.once .verbose fun settings => { settings with verbose := true }
  | .quiet => parsing.once .quiet fun settings => { settings with quiet := true }
  | .help => (parsing, some .help)
  | .version => (parsing, some .version)

def settle (parsing : Parsing) : Parsing × Option Stop :=
  match parsing.pending with
  | none => parsing.going
  | some (argument, value) => { parsing with pending := none }.store argument value

def orStop : Parsing × Option Stop → Except Stop Parsing
  | (parsing, none) => .ok parsing
  | (_, some stop) => .error stop

def take (argument : Argument) (value : Option String) (parsing : Parsing) : Except Stop Parsing := do
  let settled ← orStop parsing.settle
  orStop (settled.store argument value)

def refuse (word : String) : Except Stop Parsing := .error (.error (.unexpected word none []))

def similar? (word : String) : Option Argument :=
  let scored := Argument.all.map fun argument =>
    (argument, Text.similarity word.toList argument.longName.toList)
  let near := scored.filter fun entry => (Text.Share.mk 7 10).less entry.2
  near.foldl (fun best entry =>
    match best with
    | some (argument, share) => if entry.2.less share then some (argument, share) else some entry
    | none => some entry) none |>.map Prod.fst

def takeLong (name : String) (value : Option String) (parsing : Parsing) : Except Stop Parsing :=
  match Argument.ofLongName? name with
  | none =>
      let settled := parsing.settle.1
      let similar := similar? name
      let noted := match similar with
        | some argument => settled.note argument
        | none => settled
      .error (.error (.unexpected ("--" ++ name) similar noted.given))
  | some argument =>
      match argument.valueName?, value with
      | some _, some value => parsing.take argument (some value)
      | some _, none => do
          let settled ← orStop parsing.settle
          return { settled with pending := some (argument, none) }
      | none, some value =>
          .error (.error (.unexpectedValue value argument (parsing.note argument).given))
      | none, none => parsing.take argument none

def takeLetters : List Char → Parsing → Except Stop Parsing
  | [], parsing => .ok parsing
  | letter :: rest, parsing =>
      match Argument.ofLetter? letter with
      | some argument => do takeLetters rest (← parsing.take argument none)
      | none => refuse (String.ofList ['-', letter])

def splitValue (word : List Char) : String × Option String :=
  let name := word.takeWhile (· != '=')
  (String.ofList name,
    if name.length < word.length then some (String.ofList (word.drop (name.length + 1))) else none)

def next (parsing : Parsing) (word : String) : Except Stop Parsing :=
  if parsing.trailing then refuse word
  else match word.toList with
    | ['-', '-'] => .ok { parsing with trailing := true }
    | '-' :: '-' :: rest =>
        let (name, value) := splitValue rest
        parsing.takeLong name value
    | '-' :: letter :: rest => takeLetters (letter :: rest) parsing
    | _ =>
        match parsing.pending with
        | some (argument, none) => .ok { parsing with pending := some (argument, some word) }
        | _ => refuse word

def finish (parsing : Parsing) : Except Stop Settings := do
  let settled ← orStop parsing.settle
  let exclusive := settled.given.filter fun argument => argument == .verbose || argument == .quiet
  match exclusive with
  | [first, second] =>
      throw (.error (.conflict first second (settled.given.filter (· != second))))
  | _ => return settled.settings

end Parsing

def parse (words : List String) : Except Stop Settings := do
  (← words.foldlM Parsing.next {}).finish

end UiContract.CommandLine
