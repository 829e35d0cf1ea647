import UpnpBind.Naming.Rule
import UpnpBind.Text.Letter
import UpnpBind.Text.Case

/-!
# Normalized identifiers

The normal form of a vendor identifier is lower case with words separated by
single underscores: vendor rules first, then every '_' and '-' is dropped,
then acronym rules, then case splitting, which lower-cases each upper-case
letter and puts an underscore before it unless it starts the text or follows
one. Underscores at the start are skipped, runs of them collapse, and trailing
ones are dropped.
-/

namespace UpnpBind.Naming

open UpnpBind.Text

/-- Applies the rules of a table one after another, each to the whole text. -/
def applyRules (rules : List Rule) (s : String) : String :=
  rules.foldl (fun acc r => replaceAll acc r.pattern r.replacement) s

/-- Case splitting over the characters after the first one (`first` tells
whether `cs` starts the text), where `last` is the last character written. -/
def splitCaseFrom (first : Bool) (last : Char) : List Char → List Char
  | [] => []
  | c :: cs =>
    if isUpper c then
      let l := toLower c
      (if !first && last != '_' then ['_', l] else [l]) ++ splitCaseFrom false l cs
    else if c == '_' && (last == '_' || first) then splitCaseFrom false last cs
    else c :: splitCaseFrom false c cs

/-- Lower-cases upper-case letters with an underscore before each one that does
not start the text or follow an underscore; trailing underscores are dropped. -/
def splitCase (s : String) : String :=
  trimRightChar (String.ofList (splitCaseFrom true (Char.ofNat 0) s.toList)) '_'

/-- The normal form of a raw identifier under a normalizer. -/
def Normalizer.normalize (n : Normalizer) (raw : String) : String :=
  splitCase (applyRules n.acronyms (dropChars (applyRules n.vendor raw) ['_', '-']))

end UpnpBind.Naming
