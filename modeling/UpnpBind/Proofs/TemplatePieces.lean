import Mathlib
import UpnpBind.Render.Source
import UpnpBind.Proofs.TemplateReading

/-!
# Template expansions, piece by piece

Running a template on the data of an artifact writes the texts of its body and,
at each action, a value. For each of the five templates this module gives the
expansion as a list of pieces: text of the template, and each value the data
puts at a hole, marked with the kind of hole it fills: an identifier, the middle
of an identifier the template writes around, a line comment, a backquoted
struct tag, or a double-quoted literal, which the template writes through
`quote`. The pieces are what holes of the generated source the data can reach.

Each template is looked up to the body its file is read as
(`lookupDefinition_bodies`) and run on symbolic data (`run_responseTypesBody`
and the like), each `range` element by element (`each_map_of_run`); every
artifact of an output set expands to the text of its pieces
(`expand_eq_piecesText`).
-/

namespace UpnpBind.Template

/-- A `range` over the values of a list runs its body once per element, each
run writing the output the element gives. -/
theorem each_map_of_run {c : Context} {vars : Scope} {body : List Node} {α : Type} (val : α → Value)
    (out : α → String) (h : ∀ x, c.run (val x) vars body = .ok (out x)) (xs : List α) (i : Nat) :
    c.each [] vars body i (xs.map val) = .ok (String.join (xs.map out)) := by
  induction xs generalizing i with
  | nil => simp [Context.each]
  | cons x xs ih => simp [Context.each, h x, ih, bind, Except.bind, pure, Except.pure]

/-- A `range` that declares an index and an element runs its body once per
element, each run seeing both in its variables. -/
theorem each_indexed_map_of_run {c : Context} {vars : Scope} {body : List Node} {k v : String} {α : Type}
    (val : α → Value) (out : Nat → α → String)
    (h : ∀ (i : Nat) x, c.run (val x) ((v, val x) :: (k, .int (i : Int)) :: vars) body = .ok (out i x))
    (xs : List α) (i : Nat) :
    c.each [k, v] vars body i (xs.map val) = .ok (String.join (xs.mapIdx fun j x => out (i + j) x)) := by
  induction xs generalizing i with
  | nil => simp [Context.each]
  | cons x xs ih =>
    simp [Context.each, h i x, ih, bind, Except.bind, pure, Except.pure, List.mapIdx_cons, Nat.add_assoc,
      Nat.add_comm 1]

end UpnpBind.Template

namespace UpnpBind.Render

open UpnpBind.Template UpnpBind.Text UpnpBind.Model

/-! ## Looking the templates up -/

/-- The text the template `name` writes at node `i` of its body. -/
def templateText (name : String) (i : Nat) : String := ((lookupDefinition name).map fun d => bodyText d.body i).getD ""

/-- Each template, as it is looked up by name: its body. -/
theorem lookupDefinition_bodies :
    (∃ d, lookupDefinition "module-manifest" = some d ∧ d.body = manifestBody) ∧
    (∃ d, lookupDefinition "request-functions" = some d ∧ d.body = requestFunctionsBody) ∧
    (∃ d, lookupDefinition "response-types" = some d ∧ d.body = responseTypesBody) ∧
    (∃ d, lookupDefinition "shared-envelope" = some d ∧
      d.body = sharedEnvelopeBody (templateText "shared-envelope" 6) (templateText "shared-envelope" 8)) ∧
    (∃ d, lookupDefinition "shared-request" = some d ∧
      d.body = sharedRequestBody (templateText "shared-request" 6) (templateText "shared-request" 8)) := by
  obtain ⟨dm, hm, hmn, hmb⟩ := exists_of_readsAs readsAs_moduleManifest
  obtain ⟨dq, hq, hqn, hqb⟩ := exists_of_readsAs readsAs_requestFunctions
  obtain ⟨dr, hr, hrn, hrb⟩ := exists_of_readsAs readsAs_responseTypes
  obtain ⟨de, he, hen, heb⟩ := exists_of_readsAs readsAs_sharedEnvelope
  obtain ⟨ds, hs, hsn, hsb⟩ := exists_of_readsAs readsAs_sharedRequest
  simp only [Bool.and_eq_true, decide_eq_true_eq] at hmb hqb hrb heb hsb
  have hdefs : definitions = [dm, dq, dr, de, ds] := by
    rw [definitions, templateFiles]
    simp only [List.flatMap_cons, List.flatMap_nil, hm, hq, hr, he, hs]
    rfl
  have hlookup : ∀ name, lookupDefinition name = [dm, dq, dr, de, ds].find? (·.name == name) := by
    intro name
    rw [lookupDefinition, hdefs]
  -- the shared templates are their shapes with the texts read at nodes 6 and 8
  have heb' : de.body = sharedEnvelopeBody (bodyText de.body 6) (bodyText de.body 8) :=
    eq_set_of_blankTexts heb.1.1 (getElem?_eq_text_of_isTextAt heb.1.2) (getElem?_eq_text_of_isTextAt heb.2)
  have hsb' : ds.body = sharedRequestBody (bodyText ds.body 6) (bodyText ds.body 8) :=
    eq_set_of_blankTexts hsb.1.1 (getElem?_eq_text_of_isTextAt hsb.1.2) (getElem?_eq_text_of_isTextAt hsb.2)
  simp only [templateText, hlookup, List.find?_cons, hmn, hqn, hrn, hen, hsn, String.reduceBEq, Option.map_some,
    Option.getD_some]
  exact ⟨⟨dm, rfl, hmb⟩, ⟨dq, rfl, hqb⟩, ⟨dr, rfl, hrb⟩, ⟨de, rfl, heb'⟩, ⟨ds, rfl, hsb'⟩⟩

/-! ## Pieces -/

/-- A piece of an expansion: text of the template, or a value at a hole of the
kind the constructor names. -/
inductive Piece where
  /-- Text of the template, or a text of the generator's own (a type name, a
  declaration). -/
  | code (s : String)
  /-- An identifier: a package, type, field or parameter name. -/
  | name (s : String)
  /-- The middle of an identifier whose ends the template writes. -/
  | namePart (s : String)
  /-- Text inside a line comment. -/
  | comment (s : String)
  /-- Text inside a backquoted struct tag. -/
  | tag (s : String)
  /-- A text written as a double-quoted literal. -/
  | literal (s : String)
deriving DecidableEq, Repr

/-- The text a piece stands for in the expansion. -/
def Piece.text : Piece → String
  | .code s | .name s | .namePart s | .comment s | .tag s => s
  | .literal s => quote s

/-- The text of a list of pieces, one after another. -/
def piecesText (ps : List Piece) : String := String.join (ps.map Piece.text)

@[simp] theorem piecesText_nil : piecesText [] = "" := rfl

@[simp] theorem piecesText_cons (q : Piece) (qs : List Piece) : piecesText (q :: qs) = q.text ++ piecesText qs := by
  simp [piecesText, String.join_cons]

@[simp] theorem piecesText_append (ps qs : List Piece) : piecesText (ps ++ qs) = piecesText ps ++ piecesText qs := by
  simp [piecesText, String.join_append]

@[simp] theorem piecesText_flatten (pss : List (List Piece)) :
    piecesText pss.flatten = String.join (pss.map piecesText) := by
  induction pss with
  | nil => rfl
  | cons ps pss ih => rw [List.flatten_cons, piecesText_append, ih, List.map_cons, String.join_cons]

@[simp] theorem piecesText_flatMap {α : Type} (f : α → List Piece) (xs : List α) :
    piecesText (xs.flatMap f) = String.join (xs.map fun x => piecesText (f x)) := by
  induction xs with
  | nil => rfl
  | cons x xs ih => rw [List.flatMap_cons, piecesText_append, ih, List.map_cons, String.join_cons]

@[simp] theorem Piece.text_code (s : String) : (Piece.code s).text = s := rfl
@[simp] theorem Piece.text_name (s : String) : (Piece.name s).text = s := rfl
@[simp] theorem Piece.text_namePart (s : String) : (Piece.namePart s).text = s := rfl
@[simp] theorem Piece.text_comment (s : String) : (Piece.comment s).text = s := rfl
@[simp] theorem Piece.text_tag (s : String) : (Piece.tag s).text = s := rfl
@[simp] theorem Piece.text_literal (s : String) : (Piece.literal s).text = quote s := rfl

/-! ## Running the bodies

Each body is run on symbolic data: the runner's equations, field lookup and the
`Except` glue unfold everywhere below, and each run adds its body, its pieces
and the case split its actions make. A template is run by one theorem, with
the bodies of its `range` actions as facts inside it, in the order the template
nests them. -/

section Runs

attribute [local simp] Context.run Context.pipe Context.commands Context.command Context.fields Context.call
  Context.arg Context.args Value.field? List.lookup_cons Value.text Value.truth onString bind Except.bind pure
  Except.pure

/-! ## Response types

A field gets a comment line only where it has a default or allowed values; the
runs split on the emptiness tests the `if`, `with` and `range` actions make. -/

/-- Response types, one field. -/
def responseFieldPieces (f : Field) : List Piece :=
  (if f.default.isEmpty && f.allowedValues.isEmpty then []
   else
    [Piece.code "\n\t// ", Piece.comment f.rawName] ++
      (if f.default.isEmpty then [] else [Piece.code " defaults to ", Piece.comment f.default]) ++
      (if f.allowedValues.isEmpty then []
       else [Piece.code ", one of ", Piece.comment (", ".intercalate f.allowedValues)])) ++
  [Piece.code "\n\t", Piece.name (Naming.exportedName f.name), Piece.code " ",
   Piece.code (ValueType.ofCode f.type.code).goType, Piece.code " `xml:\"", Piece.tag f.rawName, Piece.code "\"`"]

/-- Response types, one action. -/
def responseActionPieces (a : ActionModel) : List Piece :=
  [Piece.code "\n// ", Piece.comment a.responseTypeName, Piece.code " is the response of action ", Piece.comment a.name,
   Piece.code "\ntype ", Piece.name a.responseTypeName, Piece.code " struct \x7b\n\tXMLName xml.Name `xml:\"",
   Piece.tag a.name, Piece.code "Response\"`"] ++
  a.responseFields.flatMap responseFieldPieces ++ [Piece.code "\n\x7d\n"]

/-- The package comment of a service package, up to its service type and device. -/
def unitHeaderPieces (pkg : String) (u : ServiceUnit) (does : String) : List Piece :=
  [Piece.code "// Code generated by scpdgen. DO NOT EDIT.\n\n// Package ", Piece.comment pkg,
   Piece.code does, Piece.comment u.serviceType] ++
  (if u.device.isEmpty then [] else [Piece.code " of device ", Piece.comment u.device])

/-- Response types. -/
def responseTypesPieces (pkg : String) (u : ServiceUnit) : List Piece :=
  unitHeaderPieces pkg u " holds the action responses of service\n// " ++
  [Piece.code (".\n//\n// Responses are decoded with the generic envelope of the multi-use\n" ++
     "// package next to this one.\npackage "),
   Piece.name pkg,
   Piece.code "\n\nimport \"encoding/xml\"\n\n// ServiceType is the service type URN\nconst ServiceType = ",
   Piece.literal u.serviceType, Piece.code "\n"] ++ u.actions.flatMap responseActionPieces

/-- Response types run to their pieces: the body ranges over the unit's actions,
and each action's body over its response fields. -/
theorem run_responseTypesBody (d : Definition) (pkg p : String) (u : ServiceUnit) (shared : Import) :
    (Context.mk d functions).run (dataValue (.unit pkg p u shared)) [("$", dataValue (.unit pkg p u shared))]
      responseTypesBody = .ok (piecesText (responseTypesPieces pkg u)) := by
  have hfield (vars : Scope) (f : Field) :
      (Context.mk d functions).run (fieldValue f) vars responseFieldBody =
        .ok (piecesText (responseFieldPieces f)) := by
    by_cases hd : f.default = "" <;> by_cases ha : f.allowedValues = [] <;>
    simp [hd, ha, String.append_assoc, Function.comp_def, responseFieldBody, responseFieldPieces, piecesText,
      Context.shortCircuit, fieldValue, functions, typeValue, strings]
  have haction (vars : Scope) (a : ActionModel) :
      (Context.mk d functions).run (actionValue a) vars responseActionBody =
        .ok (piecesText (responseActionPieces a)) := by
    by_cases hfs : a.responseFields = [] <;>
    simp [hfs, responseActionBody, responseActionPieces, actionValue, each_map_of_run fieldValue _ (hfield _)]
  by_cases hdev : u.device = "" <;> by_cases has : u.actions = [] <;>
  simp [hdev, has, String.append_assoc, responseTypesBody, responseTypesPieces, unitHeaderPieces, dataValue, unitValue,
    functions, each_map_of_run actionValue _ (haction _)]

/-! ## Request functions -/

/-- Request functions, the parameter at index `i` of a signature. -/
def parameterPieces (i : Nat) (f : Field) : List Piece :=
  (if i = 0 then [] else [Piece.code ", "]) ++
  [Piece.name (Naming.parameterName f.name), Piece.code " ", Piece.code (ValueType.ofCode f.type.code).goType]

/-- Request functions, one argument of a request. -/
def argumentPieces (f : Field) : List Piece :=
  [Piece.code ",\n\t\tshared.Arg\x7bName: ", Piece.literal f.rawName, Piece.code ", Value: ",
   Piece.name (Naming.parameterName f.name), Piece.code "\x7d"]

/-- Request functions, one action: its exported name stands inside the function
name, between `New` and `Request`. -/
def requestActionPieces (a : ActionModel) : List Piece :=
  [Piece.code "\n// New", Piece.comment (Naming.exportedName a.requestFunctionName),
   Piece.code "Request returns the request of action ", Piece.comment a.name,
   Piece.code "\nfunc New", Piece.namePart (Naming.exportedName a.requestFunctionName), Piece.code "Request("] ++
  (a.parameters.mapIdx parameterPieces).flatten ++
  [Piece.code ") *shared.Request \x7b\n\treturn shared.NewRequest(ControlURL, ServiceType, ", Piece.literal a.name] ++
  a.parameters.flatMap argumentPieces ++ [Piece.code ")\n\x7d\n"]

/-- Request functions. -/
def requestFunctionsPieces (pkg : String) (u : ServiceUnit) (shared : Import) : List Piece :=
  unitHeaderPieces pkg u " builds the action requests of service\n// " ++
  [Piece.code ".\npackage ", Piece.name pkg, Piece.code "\n\nimport shared ", Piece.literal shared.path,
   Piece.code "\n\nconst (\n\t// ServiceType is the service type URN\n\tServiceType = ", Piece.literal u.serviceType,
   Piece.code "\n\t// ControlURL is the path action requests are posted to\n\tControlURL = ",
   Piece.literal u.controlUrl,
   Piece.code "\n)\n"] ++ u.actions.flatMap requestActionPieces

theorem map_mapIdx {α β γ : Type} (f : Nat → α → β) (g : β → γ) (xs : List α) :
    (xs.mapIdx f).map g = xs.mapIdx fun j x => g (f j x) := by
  rw [List.mapIdx_eq_zipIdx_map, List.mapIdx_eq_zipIdx_map, List.map_map]
  rfl

/-- Request functions run to their pieces: the body ranges over the unit's
actions, and each action's body twice over its parameters, once with their
indices for the signature and once for the arguments. -/
theorem run_requestFunctionsBody (d : Definition) (pkg p : String) (u : ServiceUnit) (shared : Import) :
    (Context.mk d functions).run (dataValue (.unit pkg p u shared)) [("$", dataValue (.unit pkg p u shared))]
      requestFunctionsBody = .ok (piecesText (requestFunctionsPieces pkg u shared)) := by
  have hparameter (vars : Scope) (i : Nat) (f : Field) :
      (Context.mk d functions).run (fieldValue f) (("$p", fieldValue f) :: ("$i", .int (i : Int)) :: vars)
        requestParameterBody = .ok (piecesText (parameterPieces i f)) := by
    by_cases hi : i = 0 <;>
    simp [hi, requestParameterBody, parameterPieces, fieldValue, functions, typeValue]
  have hargument (vars : Scope) (f : Field) :
      (Context.mk d functions).run (fieldValue f) vars requestArgumentBody = .ok (piecesText (argumentPieces f)) := by
    simp [requestArgumentBody, argumentPieces, fieldValue, functions]
  have haction (vars : Scope) (a : ActionModel) :
      (Context.mk d functions).run (actionValue a) vars requestActionBody =
        .ok (piecesText (requestActionPieces a)) := by
    by_cases hps : a.parameters = [] <;>
    simp [hps, requestActionBody, requestActionPieces, map_mapIdx, actionValue, functions,
      each_map_of_run fieldValue _ (hargument _), each_indexed_map_of_run fieldValue _ (hparameter _)]
  by_cases hdev : u.device = "" <;> by_cases has : u.actions = [] <;>
  simp [hdev, has, String.append_assoc, requestFunctionsBody, requestFunctionsPieces, unitHeaderPieces, dataValue,
    unitValue, importValue, functions, each_map_of_run actionValue _ (haction _)]

/-! ## Manifests and shared packages

The declarations the shared templates write around their holes are the texts
their files hold there (`templateText`): no value of the data reaches them. -/

/-- Manifest of one side. -/
def manifestPieces (pkg p side : String) (modules : List Import) : List Piece :=
  [Piece.code "// Code generated by scpdgen. DO NOT EDIT.\n\n// Package ", Piece.comment pkg,
   Piece.code " lists the generated packages of the ", Piece.comment side, Piece.code " side"] ++
  (if p.isEmpty then [] else [Piece.code " of ", Piece.comment p]) ++
  [Piece.code ":\n//"] ++ modules.flatMap (fun m => [Piece.code "\n//\t", Piece.comment m.path]) ++
  [Piece.code "\npackage ", Piece.name pkg, Piece.code "\n\n// Packages are the import paths of the generated ",
   Piece.comment side,
   Piece.code " side packages\nvar Packages = []string\x7b"] ++
  modules.flatMap (fun m => [Piece.code "\n\t", Piece.literal m.path, Piece.code ","]) ++ [Piece.code "\n\x7d"]

/-- Shared envelope. -/
def sharedEnvelopePieces (pkg p : String) (aliases : List String) : List Piece :=
  [Piece.code "// Code generated by scpdgen. DO NOT EDIT.\n\n// Package ", Piece.comment pkg,
   Piece.code " decodes the SOAP responses of every ", Piece.comment p,
   Piece.code "\n// service. The body accepts the response element of any known action.\npackage ", Piece.name pkg,
   Piece.code (templateText "shared-envelope" 6)] ++
  aliases.flatMap (fun s => [Piece.code "\n\t", Piece.literal (s ++ "Response"), Piece.code ": true,"]) ++
  [Piece.code (templateText "shared-envelope" 8)]

/-- Shared request. -/
def sharedRequestPieces (pkg p : String) : List Piece :=
  [Piece.code "// Code generated by scpdgen. DO NOT EDIT.\n\n// Package ", Piece.comment pkg,
   Piece.code " builds the SOAP requests of every ", Piece.comment p, Piece.code "\n// service.\npackage ",
   Piece.name pkg, Piece.code (templateText "shared-request" 6), Piece.code envelopeDeclarations,
   Piece.code (templateText "shared-request" 8)]

/-- A manifest runs to its pieces: the body ranges twice over the modules, once
for the comment that lists their paths and once for the literals. -/
theorem run_manifestBody (d : Definition) (pkg p side : String) (modules : List Import) :
    (Context.mk d functions).run (dataValue (.manifest pkg p side modules))
      [("$", dataValue (.manifest pkg p side modules))] manifestBody =
      .ok (piecesText (manifestPieces pkg p side modules)) := by
  have hcomment (vars : Scope) (m : Import) :
      (Context.mk d functions).run (importValue m) vars manifestCommentBody = .ok ("\n//\t" ++ m.path) := by
    simp [manifestCommentBody, importValue]
  have hliteral (vars : Scope) (m : Import) :
      (Context.mk d functions).run (importValue m) vars manifestLiteralBody =
        .ok ("\n\t" ++ (quote m.path ++ ",")) := by
    simp [manifestLiteralBody, importValue, functions]
  by_cases hp : p = "" <;> by_cases hm : modules = [] <;>
  simp [hp, hm, String.append_assoc, manifestBody, manifestPieces, dataValue,
    each_map_of_run importValue _ (hcomment _), each_map_of_run importValue _ (hliteral _)]

/-- A shared envelope runs to its pieces: the body ranges over the aliases, each
formatted with `%sResponse`, then quoted. -/
theorem run_sharedEnvelopeBody (d : Definition) (pkg p : String) (aliases : List String) :
    (Context.mk d functions).run (dataValue (.shared pkg p aliases)) [("$", dataValue (.shared pkg p aliases))]
      (sharedEnvelopeBody (templateText "shared-envelope" 6) (templateText "shared-envelope" 8)) =
      .ok (piecesText (sharedEnvelopePieces pkg p aliases)) := by
  have halias (vars : Scope) (s : String) :
      (Context.mk d functions).run (.str s) vars sharedAliasBody =
        .ok ("\n\t" ++ (quote (s ++ "Response") ++ ": true,")) := by
    simp [sharedAliasBody, functions, formatText, formatArg]
  by_cases ha : aliases = [] <;>
  simp [ha, sharedEnvelopeBody, sharedEnvelopePieces, dataValue, strings, each_map_of_run Value.str _ (halias _)]

/-- The one function the shared request file calls, which takes no argument. -/
theorem functions_envelopeNamespaces :
    functions "envelopeNamespaces" = some fun
      | [] => .ok (.str envelopeDeclarations)
      | vs => wrongCount "envelopeNamespaces" 0 vs :=
  rfl

theorem run_sharedRequestBody (d : Definition) (pkg p : String) (aliases : List String) :
    (Context.mk d functions).run (dataValue (.shared pkg p aliases)) [("$", dataValue (.shared pkg p aliases))]
      (sharedRequestBody (templateText "shared-request" 6) (templateText "shared-request" 8)) =
      .ok (piecesText (sharedRequestPieces pkg p)) := by
  -- unfolding all of `functions` here sends `whnf` through every name it matches
  simp [sharedRequestBody, sharedRequestPieces, dataValue, functions_envelopeNamespaces]

end Runs

end UpnpBind.Render

namespace UpnpBind

open Render

/-- The pieces of an artifact's expansion, by its kind and data; none for a kind
and data that no template takes together. -/
def Artifact.pieces (a : Artifact) : List Piece :=
  match a.kind, a.data with
  | .responseTypes, .unit pkg _ u _ => responseTypesPieces pkg u
  | .requestFunctions, .unit pkg _ u shared => requestFunctionsPieces pkg u shared
  | .sharedEnvelope, .shared pkg p aliases => sharedEnvelopePieces pkg p aliases
  | .sharedRequest, .shared pkg p _ => sharedRequestPieces pkg p
  | .moduleManifest, .manifest pkg p side modules => manifestPieces pkg p side modules
  | _, _ => []

end UpnpBind

namespace UpnpBind.Render

open UpnpBind.Template UpnpBind.Model

/-! ## Expansions -/

/-- An artifact whose template is found and runs to a text expands to that text. -/
theorem expand_eq_ok {a : Artifact} {d : Definition} {s : String} (hd : lookupDefinition a.kind.name = some d)
    (hs : d.execute functions (dataValue a.data) = .ok s) : expand a = .ok s := by
  -- the lookup is rewritten before anything reduces it: reducing it reads the template files
  rw [expand, hd, expandWith, hs]
  rfl

theorem expand_responseTypes (path pkg p : String) (u : ServiceUnit) (shared : Import) :
    expand ⟨.responseTypes, path, .unit pkg p u shared⟩ = .ok (piecesText (responseTypesPieces pkg u)) := by
  obtain ⟨_, _, ⟨d, hd, hbody⟩, _, _⟩ := lookupDefinition_bodies
  apply expand_eq_ok (a := ⟨.responseTypes, path, .unit pkg p u shared⟩) hd
  rw [Definition.execute, hbody]
  exact run_responseTypesBody d pkg p u shared

theorem expand_requestFunctions (path pkg p : String) (u : ServiceUnit) (shared : Import) :
    expand ⟨.requestFunctions, path, .unit pkg p u shared⟩ =
      .ok (piecesText (requestFunctionsPieces pkg u shared)) := by
  obtain ⟨_, ⟨d, hd, hbody⟩, _, _, _⟩ := lookupDefinition_bodies
  apply expand_eq_ok (a := ⟨.requestFunctions, path, .unit pkg p u shared⟩) hd
  rw [Definition.execute, hbody]
  exact run_requestFunctionsBody d pkg p u shared

theorem expand_sharedEnvelope (path pkg p : String) (aliases : List String) :
    expand ⟨.sharedEnvelope, path, .shared pkg p aliases⟩ =
      .ok (piecesText (sharedEnvelopePieces pkg p aliases)) := by
  obtain ⟨_, _, _, ⟨d, hd, hbody⟩, _⟩ := lookupDefinition_bodies
  apply expand_eq_ok (a := ⟨.sharedEnvelope, path, .shared pkg p aliases⟩) hd
  rw [Definition.execute, hbody]
  exact run_sharedEnvelopeBody d pkg p aliases

theorem expand_sharedRequest (path pkg p : String) (aliases : List String) :
    expand ⟨.sharedRequest, path, .shared pkg p aliases⟩ = .ok (piecesText (sharedRequestPieces pkg p)) := by
  obtain ⟨_, _, _, _, ⟨d, hd, hbody⟩⟩ := lookupDefinition_bodies
  apply expand_eq_ok (a := ⟨.sharedRequest, path, .shared pkg p aliases⟩) hd
  rw [Definition.execute, hbody]
  exact run_sharedRequestBody d pkg p aliases

theorem expand_moduleManifest (path pkg p side : String) (modules : List Import) :
    expand ⟨.moduleManifest, path, .manifest pkg p side modules⟩ =
      .ok (piecesText (manifestPieces pkg p side modules)) := by
  obtain ⟨⟨d, hd, hbody⟩, _, _, _, _⟩ := lookupDefinition_bodies
  apply expand_eq_ok (a := ⟨.moduleManifest, path, .manifest pkg p side modules⟩) hd
  rw [Definition.execute, hbody]
  exact run_manifestBody d pkg p side modules

/-- Every artifact of an output set expands, to the text of its pieces. -/
theorem expand_eq_piecesText (o : OutputSet) (importPath : String) {a : Artifact} (ha : a ∈ o.artifacts importPath) :
    expand a = .ok (piecesText a.pieces) := by
  simp only [OutputSet.artifacts, OutputSet.manifestArtifact, List.mem_append, List.mem_flatMap, List.mem_cons,
    List.mem_nil_iff, or_false] at ha
  rcases ha with ⟨k, -, rfl | rfl⟩ | rfl | rfl | rfl | rfl
  · exact expand_responseTypes ..
  · exact expand_requestFunctions ..
  · exact expand_sharedEnvelope ..
  · exact expand_sharedRequest ..
  · exact expand_moduleManifest ..
  · exact expand_moduleManifest ..

end UpnpBind.Render
