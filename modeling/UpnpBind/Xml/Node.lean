import UpnpBind.Text.Blank

/-!
# Element trees

A read document is a list of top-level nodes; an element has a qualifier (the
namespace prefix it is known by), a local name, a namespace, attributes and
child nodes. Lookups by local name come in two strengths: `Node.children` and
its relatives compare the local name only, whatever the qualifier, while a
path step (`Node.select`) takes only unqualified elements. An element's text
is the text of its text descendants in document order, comments left out.
-/

namespace UpnpBind.Xml

/-- A namespace-qualified name: the namespace and the local name. -/
structure QName where
  space : String := ""
  localName : String := ""
deriving Repr, DecidableEq, Inhabited

/-- An attribute: its qualifier, local name and value. -/
structure Attribute where
  qualifier : String
  localName : String
  value : String
deriving Repr, DecidableEq, Inhabited

/-- A node of a document tree. -/
inductive Node where
  | element (qualifier localName space : String) (attrs : List Attribute) (children : List Node)
  | text (data : String)
  | comment (data : String)
  | instruction (target data : String)
deriving Repr, Inhabited

/-- A read document: its top-level nodes in order. -/
structure Document where
  nodes : List Node := []
deriving Repr, Inhabited

namespace Node

mutual

/-- The text of a node: text nodes in document order, comments left out. -/
def innerText : Node → String
  | .element _ _ _ _ cs => innerTexts cs
  | .text d => d
  | .comment _ => ""
  | .instruction _ _ => ""

/-- The texts of a list of nodes, one after another. -/
def innerTexts : List Node → String
  | [] => ""
  | c :: cs => c.innerText ++ innerTexts cs

end

/-- The child nodes of an element; other nodes have none. -/
def childNodes : Node → List Node
  | .element _ _ _ _ cs => cs
  | _ => []

/-- The local name of an element, if it is one. -/
def localName? : Node → Option String
  | .element _ n _ _ _ => some n
  | _ => none

/-- The qualified name of an element; other nodes have the empty name. -/
def qname : Node → QName
  | .element _ n s _ _ => ⟨s, n⟩
  | _ => {}

/-- Whether a node is an element with this local name, whatever its qualifier. -/
def isNamed (local_ : String) : Node → Bool
  | .element _ n _ _ _ => n == local_
  | _ => false

/-- Whether a node is an unqualified element with this local name. -/
def isPlainNamed (local_ : String) : Node → Bool
  | .element q n _ _ _ => q.isEmpty && n == local_
  | _ => false

/-- The child elements with this local name, in document order. -/
def children (n : Node) (local_ : String) : List Node := n.childNodes.filter (isNamed local_)

/-- The first child element with this local name. -/
def child? (n : Node) (local_ : String) : Option Node := (n.children local_).head?

/-- The text of the first child element with this local name, without the
blanks at its ends; empty when there is no such child. -/
def childText (n : Node) (local_ : String) : String :=
  match n.child? local_ with
  | some c => Text.trimBlank c.innerText
  | none => ""

/-- The value of the first unqualified attribute with this local name, or "". -/
def attr (n : Node) (local_ : String) : String :=
  match n with
  | .element _ _ _ attrs _ =>
    match attrs.find? (fun a => a.qualifier.isEmpty && a.localName == local_) with
    | some a => a.value
    | none => ""
  | _ => ""

/-- The nodes a relative path of unqualified name steps leads to from `n`, in
document order: each step takes the matching child elements of every node so far. -/
def select (n : Node) (steps : List String) : List Node :=
  steps.foldl (fun ns step => ns.flatMap fun m => m.childNodes.filter (isPlainNamed step)) [n]

end Node

namespace Document

/-- The top-level unqualified elements with this local name. -/
def roots (d : Document) (local_ : String) : List Node := d.nodes.filter (Node.isPlainNamed local_)

end Document

end UpnpBind.Xml
