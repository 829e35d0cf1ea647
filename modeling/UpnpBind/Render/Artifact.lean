import UpnpBind.Render.Source
import UpnpBind.GoSource.Format

/-!
# Rendering artifacts

An artifact is rendered by expanding its template and formatting the result
as Go source. Source the formatter rejects fails the artifact with a render
failure that keeps the rejected text, so it can be inspected. Rendering a list
of artifacts stops at the first failure.
-/

namespace UpnpBind.Render

/-- A generated file: its path and text. -/
structure OutputFile where
  path : String
  text : String
deriving Repr, DecidableEq, Inhabited

/-- Renders one artifact into a formatted file. -/
def renderArtifact (a : Artifact) : Except Failure OutputFile := do
  let src ← expand a
  match GoSource.formatSource a.path src with
  | .ok text => return ⟨a.path, text⟩
  | .error e => throw (Failure.raise .render a.kind.name [.path a.path, .cause (.source a.path src e)])

/-- Renders artifacts in order, stopping at the first failure. -/
def renderAll (arts : List Artifact) : Except Failure (List OutputFile) := arts.mapM renderArtifact

end UpnpBind.Render
