import UiContract.Checks.Context
import UiContract.Violation

/-!
The `check` for files that cannot be parsed. Each of them is an error, since its imports were not followed.
-/
namespace UiContract.Checks

def parse (context : CheckContext) : List Violation :=
  context.reachable.failures.map fun (file, reason) =>
    (Violation.error .parse file.relativePath reason).withHint
      "Imports of this file were not followed"

end UiContract.Checks
