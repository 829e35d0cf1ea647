import UpnpBind.Xml.Node
import UpnpBind.Text.Edit

/-!
# Location paths

A small part of the path language for selecting nodes of a document: a path
is a sequence of steps separated by '/', starting at the document when it
begins with '/', where '//' before a step searches all descendants. A step is
an unqualified name, which takes the unqualified child elements of that local
name, '*' for every child element, or '.' for the node itself. The first node
found, in document order, is the path's result.
-/

namespace UpnpBind.Xml

/-- A step of a location path. -/
inductive Step where
  | named (localName : String)
  | anyElement
  | self
  /-- Every descendant of the context nodes, and the nodes themselves. -/
  | descendants
deriving Repr, DecidableEq

/-- The steps of a path text; the document is its start either way. -/
def parseSteps (path : String) : List Step :=
  let pieces := Text.split path '/'
  let pieces := match pieces with
    | "" :: rest => rest
    | ps => ps
  pieces.map fun p =>
    if p.isEmpty then .descendants else if p == "*" then .anyElement else if p == "." then .self
    else .named p

/-- A node and all its descendants, in document order. -/
def Node.subtree : Node → List Node
  | .element q l s a cs => .element q l s a cs :: cs.attach.flatMap fun ⟨c, _⟩ => c.subtree
  | n => [n]

/-- The nodes a step leads to from the context nodes. -/
def Step.apply (ctx : List Node) : Step → List Node
  | .named l => ctx.flatMap fun n => n.childNodes.filter (Node.isPlainNamed l)
  | .anyElement => ctx.flatMap fun n => n.childNodes.filter (fun c => c.localName?.isSome)
  | .self => ctx
  | .descendants => ctx.flatMap Node.subtree

/-- The first node of a document a path leads to. -/
def Document.findFirst (d : Document) (path : String) : Option Node :=
  let start : Node := .element "" "" "" [] d.nodes
  let found := (parseSteps path).foldl Step.apply [start]
  (found.filter fun n => n.localName?.isSome && !(n.localName? == some "")).head?

end UpnpBind.Xml
