import UiContract.Text.Blank
import UiContract.Path

/-!
The one form in which root-relative paths and globs are compared (`normalize_filter_path`): no blanks around
it, slashes for backslashes, no leading `./` and no slash at either end.
-/
namespace UiContract.PathFilter

def normalize (raw : String) : String :=
  let slashed := (Text.dropEnds Text.isBlank raw.toList).map
    fun character => if character == '\\' then '/' else character
  let value := Text.dropEnds (· == '/') (Path.dropCurrent slashed)
  if value == ['.'] then "" else String.ofList value

end UiContract.PathFilter
