import UpnpBind.Text.Edit

/-!
# Slash-separated paths

Paths below the output directory and import paths are slash-separated. A path
is cleaned by dropping empty and "." elements and letting each ".." cancel
the element before it; a ".." that has nothing to cancel stays at the front of
a relative path and is dropped at the root of an absolute one. The clean form
of a path with no elements left is "." (or "/" when it is absolute).
-/

namespace UpnpBind.Text

/-- The elements left after ".." elements cancel the ones before them. The
stack holds the elements kept so far, the last one first. -/
def cancelDots (rooted : Bool) : List String → List String → List String
  | stack, [] => stack
  | stack, e :: es =>
    if e.isEmpty || e == "." then cancelDots rooted stack es
    else if e == ".." then
      match stack with
      | top :: rest => if top == ".." then cancelDots rooted (e :: stack) es else cancelDots rooted rest es
      | [] => if rooted then cancelDots rooted [] es else cancelDots rooted [e] es
    else cancelDots rooted (e :: stack) es

/-- The shortest path naming the same place, by purely lexical rules. -/
def cleanPath (p : String) : String :=
  let rooted := p.startsWith "/"
  let body := "/".intercalate (cancelDots rooted [] (split p '/')).reverse
  if rooted then "/" ++ body
  else if body.isEmpty then "." else body

/-- Joins path parts with slashes and cleans the result; empty parts are
ignored, and a join of only empty parts is empty. -/
def joinPath (parts : List String) : String :=
  match parts.dropWhile (·.isEmpty) with
  | [] => ""
  | rest => cleanPath ("/".intercalate rest)

end UpnpBind.Text
