import UiContract.Checks.Context
import UiContract.PathGlobs
import UiContract.Regex
import UiContract.Violation

/-!
The `check` of routes: every script file right in the directory of the routes (`is_route_file`) has to name a
layout wrapper as a whole word (`wrapper_matcher`), and to be reached from an entry (`orphan_routes`).
-/
namespace UiContract

def wrapperRegex [Engine] (wrappers : List String) : Except RegexError Regex :=
  Regex.wholeWord (wrappers.map Text.trim)

namespace Checks

def isRoute (routes path : Path) : Bool :=
  (path.parent?.any fun directory => directory.same routes) && (Language.ofPath path).isScript

def unwrapped (shell : ShellSection) (subject : String) : Violation :=
  let found := Violation.error .shell subject
    ("route does not render a layout wrapper (expected one of: " ++
      Text.join ", " shell.wrappers ++ ")")
  match shell.wrappers with
  | [] => found
  | first :: _ => found.withHint ("Wrap the page content in <" ++ first ++ ">")

def unwrappedRoutes (context : CheckContext) (shell : ShellSection) (routes : Path)
    (exempt : PathGlobs) (wrapper : Regex) : List Violation :=
  context.files.filterMap fun file =>
    if !isRoute routes file.path || exempt.accepts file.relativePath then none
    else match file.text? with
      | none => none
      | some text => if wrapper.isMatch text then none else some (unwrapped shell file.relativePath)

def routeFiles (tree : FileTree) (routes : Path) : List Path :=
  match tree.locate routes with
  | .error _ => []
  | .ok place =>
      (tree.children place).filterMap fun (name, entry) =>
        let path := routes.join (String.ofList name)
        match entry with
        | .file _ => if isRoute routes path then some path.normalize else none
        | _ => none

def orphanRoutes (context : CheckContext) (routes : Path) (exempt : PathGlobs) : List Violation :=
  let orphans := (routeFiles context.tree routes).filter fun path =>
    !context.reachable.contains path
  let subjects := (orphans.map context.relative).filter fun subject => !exempt.accepts subject
  subjects.map fun subject =>
    (Violation.warning .shell subject "orphan route: not reachable from any entry").withHint
      "Register the route or delete the file"

def shell [Engine] (context : CheckContext) : List Violation :=
  match context.config.shell with
  | none => []
  | some shell =>
      match PathGlobs.compile shell.exempt, wrapperRegex shell.wrappers with
      | .error refusal, _ => [Violation.configuration .shell "shell.exempt" refusal.message]
      | .ok _, .error error =>
          [Violation.configuration .shell "shell.wrappers"
            ("invalid pattern 'shell.wrappers': " ++ error.message)]
      | .ok exempt, .ok wrapper =>
          let routes := context.root.configured shell.routesDirectory
          if !context.tree.isDirectory routes then
            [Violation.configuration .shell shell.routesDirectory
              ("routes_dir " ++ shell.routesDirectory ++ " is not a directory")]
          else
            unwrappedRoutes context shell routes exempt wrapper ++
              orphanRoutes context routes exempt

end Checks

end UiContract
