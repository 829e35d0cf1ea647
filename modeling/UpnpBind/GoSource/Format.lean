import UpnpBind.GoSource.Nodes
import UpnpBind.GoSource.Imports

/-!
# Formatting generated source

Generated source is parsed, its unused imports are removed, and it is laid
out; the result is parsed and laid out once more, now with number literals in
their standard form, as the layout of a laid-out file is taken as final. A
source that does not parse is rejected with the first parse error, by file,
line and byte column, and the number of further errors.
-/

namespace UpnpBind.GoSource

/-- Lays out a parsed source text. -/
def layoutParsed (r : Parsed) (size : Nat) (normalizeNumbers : Bool) (prune : Bool) : Option String :=
  r.file.bind fun f =>
    let f := if prune then pruneImports f else f
    String.fromUTF8? (layoutFile f r.lines size normalizeNumbers)

/-- Formats generated source at a path: the formatted text, or the parse error. -/
def formatSource (path text : String) : Except String String := do
  let r := parseSource text
  if let some e := r.report path then throw e
  let some once := layoutParsed r text.utf8ByteSize false true
    | throw (path ++ ": no file")
  let r2 := parseSource once
  if let some e := r2.report "" then throw e
  match layoutParsed r2 once.utf8ByteSize true false with
  | some twice => return twice
  | none => throw "no file"

end UpnpBind.GoSource
