import UpnpBind.Text.Letter
import UpnpBind.Text.Case
import UpnpBind.Text.Edit

/-!
# Identifiers of the generated code

From a normalized name the generator derives an exported identifier (each
underscore-separated word capitalised and joined, with an `X` in front when
it would not start with a letter) and a parameter identifier (the exported one
with its first character lower-cased, and an underscore appended when it is a
keyword of the generated language or a name the generated code reserves).
Response type names come from raw action names with '-' and '_' dropped.
-/

namespace UpnpBind.Naming

open UpnpBind.Text

/-- The keywords of the generated language. -/
def keywords : List String :=
  ["break", "case", "chan", "const", "continue", "default", "defer", "else",
   "fallthrough", "for", "func", "go", "goto", "if", "import", "interface", "map",
   "package", "range", "return", "select", "struct", "switch", "type", "var"]

/-- Names the generated request functions refer to, kept free for them. -/
def reservedNames : List String := ["shared"]

/-- A word with its first character upper-cased. -/
def capitalize : List Char → List Char
  | [] => []
  | c :: cs => toUpper c :: cs

/-- The exported identifier of a normalized name, for example
"new_x_avm_de_foo" becomes "NewXAvmDeFoo". -/
def exportedName (normalized : String) : String :=
  let joined := (splitList normalized.toList '_').flatMap capitalize
  match joined with
  | [] => "X"
  | c :: cs => if isLetter c then String.ofList (c :: cs) else String.ofList ('X' :: c :: cs)

/-- The parameter identifier of a normalized name, for example "new_enable"
becomes "newEnable"; keywords and reserved names get a trailing underscore. -/
def parameterName (normalized : String) : String :=
  let s := match (exportedName normalized).toList with
    | [] => ""
    | c :: cs => String.ofList (toLower c :: cs)
  if keywords.contains s || reservedNames.contains s then s ++ "_" else s

/-- The response type name of a raw action name: the name without '-' and '_',
followed by "Response". -/
def responseTypeName (action : String) : String :=
  dropChars action ['-', '_'] ++ "Response"

end UpnpBind.Naming
