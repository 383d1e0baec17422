import UiContract.Checks.Context
import UiContract.Violation

/-!
The `check` of imports of modules that are banned. Specifiers are compared as they are written, whether they
lead to a file or not (`matches`); imports of mere types are free.
-/
namespace UiContract

def BannedImportRule.bans (rule : BannedImportRule) (specifier : String) : Bool :=
  match rule.compared with
  | .whole => specifier == rule.specifier
  | .beginning => Text.startsWith specifier rule.specifier

namespace Checks

def bannedImport (rules : List BannedImportRule) (subject : String) (edge : ImportEdge) :
    List Violation :=
  if edge.typeOnly then []
  else (rules.filter fun rule => rule.bans edge.specifier).map fun rule =>
    ((Violation.error .imports subject
      ("imports '" ++ edge.specifier ++ "' (banned by " ++ rule.id ++ ")")).withHint
        rule.hint).atLine edge.line

def bannedImports (context : CheckContext) : List Violation :=
  context.files.flatMap fun file =>
    file.knownImports.flatMap (bannedImport context.config.bannedImports file.relativePath)

end Checks

end UiContract
