import UiContract.Text.Pieces

/-!
The arguments of the command line, and how they are named in help and errors.
-/
namespace UiContract.CommandLine

def command : String := "contract-gate"

def version : String := "0.1.1"

inductive Argument where
  | root
  | config
  | strict
  | check
  | json
  | why
  | verbose
  | quiet
  | help
  | version
deriving DecidableEq, Repr

namespace Argument

def all : List Argument :=
  [root, config, strict, check, json, why, verbose, quiet, help, version]

def longName : Argument → String
  | root => "root"
  | config => "config"
  | strict => "strict"
  | check => "check"
  | json => "json"
  | why => "why"
  | verbose => "verbose"
  | quiet => "quiet"
  | help => "help"
  | version => "version"

def letter? : Argument → Option Char
  | verbose => some 'v'
  | quiet => some 'q'
  | help => some 'h'
  | version => some 'V'
  | _ => none

def valueName? : Argument → Option String
  | root => some "ROOT"
  | config => some "CONFIG"
  | check => some "NAME"
  | why => some "PATH"
  | _ => none

def description : Argument → String
  | root => "Project root; every configured path is relative to it [default: .]"
  | config => "Gate configuration (default: <root>/contract.toml)"
  | strict => "Treat compat registry entries as errors"
  | check =>
      "Run only the named check (repeatable): parse, registry, patterns, imports, shell, budgets, " ++
        "cross-ref"
  | json => "Print the report as JSON on stdout"
  | why => "Explain why a file is reachable"
  | verbose => "Enable verbose logging"
  | quiet => "Log only errors"
  | help => "Print help"
  | version => "Print version"

def shown (argument : Argument) : String :=
  "--" ++ argument.longName ++ match argument.valueName? with
    | some name => " <" ++ name ++ ">"
    | none => ""

def listed (argument : Argument) : String :=
  (match argument.letter? with
    | some letter => "  -" ++ String.ofList [letter] ++ ", "
    | none => "      ") ++ argument.shown

def ofLongName? (name : String) : Option Argument :=
  all.find? fun argument => argument.longName == name

def ofLetter? (letter : Char) : Option Argument :=
  all.find? fun argument => argument.letter? == some letter

end Argument

def usage (arguments : List Argument) : String :=
  "Usage: " ++ command ++ " " ++
    if arguments.isEmpty then "[OPTIONS]" else Text.join " " (arguments.map Argument.shown)

def helpText : String :=
  let width := (Argument.all.map fun argument => argument.listed.length).foldl max 0
  "Verify architectural and content contracts of a UI codebase\n\n" ++ usage [] ++ "\n\nOptions:\n" ++
    String.join (Argument.all.map fun argument =>
      Text.padRight width argument.listed ++ "  " ++ argument.description ++ "\n")

def versionText : String := command ++ " " ++ version ++ "\n"

end UiContract.CommandLine
