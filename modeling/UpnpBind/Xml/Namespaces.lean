import UpnpBind.Xml.Node
import UpnpBind.Xml.Reader

/-!
# Namespace declarations

A prefix map binds namespace prefixes to namespaces. It is built from
attributes, of which only `xmlns:p` declarations count, a later declaration of
a prefix replacing an earlier one. Its declarations are written in order of
prefix, each value escaped as attribute text.
-/

namespace UpnpBind.Xml

/-- The escaped form of one character of attribute or element text: markup
characters, quotes and line breaks become references, and characters a
document may not hold become the replacement character. -/
def escapeChar (c : Char) : List Char :=
  if c == '"' then "&#34;".toList
  else if c == '\'' then "&#39;".toList
  else if c == '&' then "&amp;".toList
  else if c == '<' then "&lt;".toList
  else if c == '>' then "&gt;".toList
  else if c == '\t' then "&#x9;".toList
  else if c == '\n' then "&#xA;".toList
  else if c == '\r' then "&#xD;".toList
  else if isDocumentChar c then [c]
  else [Char.ofNat 0xFFFD]

/-- Escapes a text for use inside markup. -/
def escapeText (s : String) : String := String.ofList (s.toList.flatMap escapeChar)

/-- An attribute as a qualified name and a value. -/
structure NamedValue where
  name : QName
  value : String
deriving Repr, DecidableEq, Inhabited

/-- Bindings of prefixes to namespaces, kept in increasing order of prefix. -/
structure PrefixMap where
  bindings : List (String × String) := []
deriving Repr, DecidableEq, Inhabited

namespace PrefixMap

/-- Binds a prefix, replacing an earlier binding and keeping the order. -/
def bind (m : PrefixMap) (p ns : String) : PrefixMap :=
  let rest := m.bindings.filter (·.1 != p)
  ⟨(rest.filter (·.1 < p)) ++ [(p, ns)] ++ rest.filter (fun e => p < e.1)⟩

/-- The map of the `xmlns:p` declarations among the attributes. -/
def ofAttributes (attrs : List NamedValue) : PrefixMap :=
  attrs.foldl (fun m a => if a.name.space == "xmlns" then m.bind a.name.localName a.value else m) {}

/-- The declarations as attributes, in order of prefix. -/
def attributes (m : PrefixMap) : List NamedValue :=
  m.bindings.map fun (p, ns) => ⟨⟨"xmlns", p⟩, ns⟩

/-- The declarations as markup text, separated by spaces. -/
def declarations (m : PrefixMap) : String :=
  " ".intercalate (m.bindings.map fun (p, ns) => "xmlns:" ++ p ++ "=\"" ++ escapeText ns ++ "\"")

/-- The namespace of a prefix, or "". -/
def namespaceOf (m : PrefixMap) (p : String) : String :=
  ((m.bindings.find? (·.1 == p)).map (·.2)).getD ""

/-- The prefixes bound to a namespace, in increasing order. -/
def prefixesOf (m : PrefixMap) (ns : String) : List String :=
  (m.bindings.filter (·.2 == ns)).map (·.1)

end PrefixMap

end UpnpBind.Xml
