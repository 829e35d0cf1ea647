import UpnpBind.Render.Data
import UpnpBind.Render.Templates
import UpnpBind.Template.Run

/-!
# Expanding artifacts

Each artifact is expanded with the template named by its kind. The templates
are those of `UpnpBind.Render.templateFiles`; a kind without a template, or
data without a field the template reads, fails as a render failure of the
artifact's path.
-/

namespace UpnpBind.Render

open UpnpBind.Template

/-- The name of the template set, which failures to find a template mention. -/
def templateSetName : String := "scpdgen"

/-- The definitions of all template files, in file order. -/
def definitions : List Definition :=
  templateFiles.flatMap fun (file, text) => (readFile file text).toOption.getD []

/-- The definition of a name, if one of the files defines it. -/
def lookupDefinition (name : String) : Option Definition := definitions.find? (·.name == name)

/-- The render failure of an artifact. -/
def expandFailure (a : Artifact) (m : String) : Failure :=
  Failure.raise .render a.kind.name [.path a.path, .cause (.text m)]

/-- The expansion of an artifact by the definition found for its kind, if one was found. -/
def expandWith (a : Artifact) : Option Definition → Except Failure String
  | none =>
    .error (expandFailure a
      ("template: no template \"" ++ a.kind.name ++ "\" associated with template \"" ++ templateSetName ++ "\""))
  | some d => (d.execute functions (dataValue a.data)).mapError (expandFailure a)

/-- The expanded source of an artifact, before formatting. -/
def expand (a : Artifact) : Except Failure String :=
  -- the lookup is an argument of its own, so that a proof can put the definition
  -- it finds in its place rather than reduce it, which reads the template files
  expandWith a (lookupDefinition a.kind.name)

end UpnpBind.Render
