import UpnpBind.Render.Templates
import UpnpBind.Template.Tree
import UpnpBind.Proofs.Utf8Forms

/-!
# The binding templates as they are read

Each template file holds one definition, named for the artifact kind it
renders. This module gives the body each file is read as: the text it writes
and the actions between, with their pipelines as the parser builds them (each
term keeps the offset execution errors would report). The long Go declarations
of the two shared templates are left as parameters of their bodies, read off
the files at nodes 6 and 8; every other text is spelled out, so that what
stands around each action can be read off the body.

The files are read by evaluation. Their texts are ASCII, so they are taken
byte by byte (`toList_lines`); reading a literal text character by character
would cost evaluation time quadratic in its length.
-/

namespace UpnpBind.Template

/-- The text at a node of a body; empty where that node is no text. -/
def bodyText (body : List Node) (i : Nat) : String :=
  match body[i]? with
  | some (.text s) => s
  | _ => ""

/-- Whether the node at an index of a body is text. -/
def isTextAt (body : List Node) (i : Nat) : Bool :=
  match body[i]? with
  | some (.text _) => true
  | _ => false

/-- A body with the text of two of its nodes emptied. -/
def blankTexts (body : List Node) (i j : Nat) : List Node := (body.set i (.text "")).set j (.text "")

/-- A body that is text at `i` and `j`, and is `shape` once both are emptied, is
`shape` with its own texts there. -/
theorem eq_set_of_blankTexts {body shape : List Node} {i j : Nat} {s t : String}
    (hb : blankTexts body i j = blankTexts shape i j) (hi : body[i]? = some (.text s)) (hj : body[j]? = some (.text t)) :
    body = (shape.set i (.text s)).set j (.text t) := by
  have hlen : body.length = shape.length := by simpa [blankTexts] using congrArg List.length hb
  apply List.ext_getElem?
  intro k
  have hk := congrArg (·[k]?) hb
  simp only [blankTexts, List.getElem?_set, List.length_set] at hk ⊢
  by_cases hjk : j = k
  · subst hjk
    have hjl : j < body.length := (List.getElem?_eq_some_iff.mp hj).1
    simp [hj, hlen ▸ hjl]
  · by_cases hik : i = k
    · subst hik
      have hil : i < body.length := (List.getElem?_eq_some_iff.mp hi).1
      simp [hi, hjk, hlen ▸ hil]
    · simpa [hjk, hik] using hk

theorem getElem?_eq_text_of_isTextAt {body : List Node} {i : Nat} (h : isTextAt body i = true) :
    body[i]? = some (.text (bodyText body i)) := by
  unfold isTextAt at h
  unfold bodyText
  split at h <;> rename_i heq
  · rw [heq]
  · exact absurd h Bool.false_ne_true

end UpnpBind.Template

namespace UpnpBind.Render

open UpnpBind.Template UpnpBind.Text

/-! ## The bodies -/

/-- Manifest, one package: its path on a comment line. -/
def manifestCommentBody : List Node := [.text "\n//\t", .action ⟨212, [], [[.field 212 ["Path"]]]⟩]

/-- Manifest, one package: its path as a quoted literal. -/
def manifestLiteralBody : List Node :=
  [.text "\n\t", .action ⟨375, [], [[.func 375 "quote", .field 381 ["Path"]]]⟩, .text ","]

/-- Manifest: the comment naming the side and its prefix, one comment line per
package path, the package clause, and the paths again as quoted literals. -/
def manifestBody : List Node :=
  [.text "// Code generated by scpdgen. DO NOT EDIT.\n\n// Package ",
   .action ⟨88, [], [[.field 88 ["Package"]]]⟩,
   .text " lists the generated packages of the ",
   .action ⟨137, [], [[.field 137 ["Side"]]]⟩,
   .text " side",
   .branch .with_ ⟨156, [], [[.field 156 ["Prefix"]]]⟩ [.text " of ", .action ⟨171, [], [[.dot 171]]⟩] [],
   .text ":\n//",
   .branch .range ⟨196, [], [[.field 196 ["Modules"]]]⟩ manifestCommentBody [],
   .text "\npackage ",
   .action ⟨240, [], [[.field 240 ["Package"]]]⟩,
   .text "\n\n// Packages are the import paths of the generated ",
   .action ⟨304, [], [[.field 304 ["Side"]]]⟩,
   .text " side packages\nvar Packages = []string\x7b",
   .branch .range ⟨361, [], [[.field 361 ["Modules"]]]⟩ manifestLiteralBody [],
   .text "\n\x7d"]

/-- Request functions, one parameter: a comma before all but the first, then its
identifier and type. -/
def requestParameterBody : List Node :=
  [.branch .if_ ⟨652, [], [[.variable 652 "$i" []]]⟩ [.text ", "] [],
   .action ⟨667, [], [[.func 667 "paramName", .variable 679 "$p" ["Name"]]]⟩,
   .text " ",
   .action ⟨689, [], [[.func 689 "goType", .variable 698 "$p" ["Type"]]]⟩]

/-- Request functions, one argument of the request: its raw name quoted and its
parameter. -/
def requestArgumentBody : List Node :=
  [.text ",\n\t\tshared.Arg\x7bName: ",
   .action ⟨842, [], [[.func 842 "quote", .field 848 ["RawName"]]]⟩,
   .text ", Value: ",
   .action ⟨869, [], [[.func 869 "paramName", .field 879 ["Name"]]]⟩,
   .text "\x7d"]

/-- Request functions, one action: the comment and signature of its function
and the request it returns. -/
def requestActionBody : List Node :=
  [.text "\n// New",
   .action ⟨492, [], [[.func 492 "goName", .field 499 ["RequestFunctionName"]]]⟩,
   .text "Request returns the request of action ",
   .action ⟨561, [], [[.field 561 ["Name"]]]⟩,
   .text "\nfunc New",
   .action ⟨579, [], [[.func 579 "goName", .field 586 ["RequestFunctionName"]]]⟩,
   .text "Request(",
   .branch .range ⟨624, ["$i", "$p"], [[.field 634 ["Parameters"]]]⟩ requestParameterBody [],
   .text ") *shared.Request \x7b\n\treturn shared.NewRequest(ControlURL, ServiceType, ",
   .action ⟨785, [], [[.func 785 "quote", .field 791 ["Name"]]]⟩,
   .branch .range ⟨806, [], [[.field 806 ["Parameters"]]]⟩ requestArgumentBody [],
   .text ")\n\x7d\n"]

/-- Request functions: the package comment, clause and constants, then one
function per action. -/
def requestFunctionsBody : List Node :=
  [.text "// Code generated by scpdgen. DO NOT EDIT.\n\n// Package ",
   .action ⟨90, [], [[.field 90 ["Package"]]]⟩,
   .text " builds the action requests of service\n// ",
   .action ⟨144, [], [[.field 149 ["Unit", "ServiceType"]]]⟩,
   .branch .with_ ⟨170, [], [[.field 175 ["Unit", "Device"]]]⟩
     [.text " of device ", .action ⟨197, [], [[.dot 197]]⟩] [],
   .text ".\npackage ",
   .action ⟨219, [], [[.field 219 ["Package"]]]⟩,
   .text "\n\nimport shared ",
   .action ⟨247, [], [[.func 247 "quote", .field 260 ["Shared", "Path"]]]⟩,
   .text "\n\nconst (\n\t// ServiceType is the service type URN\n\tServiceType = ",
   .action ⟨334, [], [[.func 334 "quote", .field 345 ["Unit", "ServiceType"]]]⟩,
   .text "\n\t// ControlURL is the path action requests are posted to\n\tControlURL = ",
   .action ⟨433, [], [[.func 433 "quote", .field 444 ["Unit", "ControlURL"]]]⟩,
   .text "\n)\n",
   .branch .range ⟨468, [], [[.field 473 ["Unit", "Actions"]]]⟩ requestActionBody []]

/-- Response types, one field: a comment line with its raw name, default and
allowed values where it has either, then the struct field and its tag. -/
def responseFieldBody : List Node :=
  [.branch .if_ ⟨638, [], [[.func 638 "or", .field 641 ["Default"], .field 650 ["AllowedValues"]]]⟩
     [.text "\n\t// ",
      .action ⟨673, [], [[.field 673 ["RawName"]]]⟩,
      .branch .with_ ⟨690, [], [[.field 690 ["Default"]]]⟩
        [.text " defaults to ", .action ⟨715, [], [[.dot 715]]⟩] [],
      .branch .with_ ⟨732, [], [[.field 732 ["AllowedValues"]]]⟩
        [.text ", one of ", .action ⟨759, [], [[.func 759 "join", .dot 764, .str 766 ", "]]⟩] []]
     [],
   .text "\n\t",
   .action ⟨793, [], [[.func 793 "goName", .field 800 ["Name"]]]⟩,
   .text " ",
   .action ⟨810, [], [[.func 810 "goType", .field 817 ["Type"]]]⟩,
   .text " `xml:\"",
   .action ⟨833, [], [[.field 833 ["RawName"]]]⟩,
   .text "\"`"]

/-- Response types, one action: the comment and declaration of its response
struct, the element name in the tag of its `XMLName`, then its fields. -/
def responseActionBody : List Node :=
  [.text "\n// ",
   .action ⟨467, [], [[.field 467 ["ResponseTypeName"]]]⟩,
   .text " is the response of action ",
   .action ⟨515, [], [[.field 515 ["Name"]]]⟩,
   .text "\ntype ",
   .action ⟨530, [], [[.field 530 ["ResponseTypeName"]]]⟩,
   .text " struct \x7b\n\tXMLName xml.Name `xml:\"",
   .action ⟨585, [], [[.field 585 ["Name"]]]⟩,
   .text "Response\"`",
   .branch .range ⟨613, [], [[.field 613 ["ResponseFields"]]]⟩ responseFieldBody [],
   .text "\n\x7d\n"]

/-- Response types: the package comment, clause and service type, then one
struct per action. -/
def responseTypesBody : List Node :=
  [.text "// Code generated by scpdgen. DO NOT EDIT.\n\n// Package ",
   .action ⟨87, [], [[.field 87 ["Package"]]]⟩,
   .text " holds the action responses of service\n// ",
   .action ⟨141, [], [[.field 146 ["Unit", "ServiceType"]]]⟩,
   .branch .with_ ⟨167, [], [[.field 172 ["Unit", "Device"]]]⟩
     [.text " of device ", .action ⟨194, [], [[.dot 194]]⟩] [],
   .text ".\n//\n// Responses are decoded with the generic envelope of the multi-use\n// package next to this one.\npackage ",
   .action ⟨316, [], [[.field 316 ["Package"]]]⟩,
   .text "\n\nimport \"encoding/xml\"\n\n// ServiceType is the service type URN\nconst ServiceType = ",
   .action ⟨412, [], [[.func 412 "quote", .field 423 ["Unit", "ServiceType"]]]⟩,
   .text "\n",
   .branch .range ⟨446, [], [[.field 451 ["Unit", "Actions"]]]⟩ responseActionBody []]

/-- Shared envelope, one alias: the response element of an action, quoted. -/
def sharedAliasBody : List Node :=
  [.text "\n\t",
   .action ⟨754, [], [[.func 754 "quote", .pipe 760 [] [[.func 761 "printf", .str 768 "%sResponse", .dot 781]]]]⟩,
   .text ": true,"]

/-- Shared envelope, with the declarations it writes after its package clause
and after the aliases left as given: one quoted alias per action name. -/
def sharedEnvelopeBody (head tail : String) : List Node :=
  [.text "// Code generated by scpdgen. DO NOT EDIT.\n\n// Package ",
   .action ⟨88, [], [[.field 88 ["Package"]]]⟩,
   .text " decodes the SOAP responses of every ",
   .action ⟨137, [], [[.field 137 ["Prefix"]]]⟩,
   .text "\n// service. The body accepts the response element of any known action.\npackage ",
   .action ⟨228, [], [[.field 228 ["Package"]]]⟩,
   .text head,
   .branch .range ⟨740, [], [[.field 740 ["Aliases"]]]⟩ sharedAliasBody [],
   .text tail]

/-- Shared request, with the declarations around the envelope's namespace
declarations left as given. -/
def sharedRequestBody (head tail : String) : List Node :=
  [.text "// Code generated by scpdgen. DO NOT EDIT.\n\n// Package ",
   .action ⟨87, [], [[.field 87 ["Package"]]]⟩,
   .text " builds the SOAP requests of every ",
   .action ⟨134, [], [[.field 134 ["Prefix"]]]⟩,
   .text "\n// service.\npackage ",
   .action ⟨166, [], [[.field 166 ["Package"]]]⟩,
   .text head,
   .action ⟨790, [], [[.func 790 "envelopeNamespaces"]]⟩,
   .text tail]

/-! ## Reading the files -/

theorem readFile_eq (file text : String) : readFile file text = (do
    let items ← scanFrom (text.toList.length + 1) 0 false text.toList
    let (defs, _) ← (parseDefinitions file text (items.length + 1)).run items
    return defs) := by
  rw [readFile, scan, String.length_toList]

/-- A template file is read as one definition of a name, whose body has the
shape `shape` gives that definition. -/
def ReadsAs (file text name : String) (check : List Node → Bool) : Prop :=
  (readFile file text).toOption.map (List.map fun d => (d.name, check d.body)) = some [(name, true)]

theorem exists_of_readsAs {file text name : String} {check : List Node → Bool}
    (h : ReadsAs file text name check) : ∃ d, readFile file text = .ok [d] ∧ d.name = name ∧ check d.body = true := by
  unfold ReadsAs at h
  cases hr : readFile file text with
  | error e => simp [hr, Except.toOption] at h
  | ok ds =>
    simp only [hr, Except.toOption, Option.map_some, Option.some.injEq] at h
    cases ds with
    | nil => simp at h
    | cons d ds =>
      cases ds with
      | nil =>
        simp only [List.map_cons, List.map_nil, List.cons.injEq, Prod.mk.injEq, and_true] at h
        exact ⟨d, rfl, h.1, h.2⟩
      | cons => simp at h

theorem readsAs_moduleManifest :
    ReadsAs "module-manifest.tmpl" moduleManifestText "module-manifest" fun b => decide (b = manifestBody) := by
  rw [ReadsAs, readFile_eq, moduleManifestText, toList_lines]
  · decide +kernel
  · decide +kernel

theorem readsAs_requestFunctions :
    ReadsAs "request-functions.tmpl" requestFunctionsText "request-functions" fun b => decide (b = requestFunctionsBody) := by
  rw [ReadsAs, readFile_eq, requestFunctionsText, toList_lines]
  · decide +kernel
  · decide +kernel

theorem readsAs_responseTypes :
    ReadsAs "response-types.tmpl" responseTypesText "response-types" fun b => decide (b = responseTypesBody) := by
  rw [ReadsAs, readFile_eq, responseTypesText, toList_lines]
  · decide +kernel
  · decide +kernel

theorem readsAs_sharedEnvelope :
    ReadsAs "shared-envelope.tmpl" sharedEnvelopeText "shared-envelope" fun b =>
      decide (blankTexts b 6 8 = blankTexts (sharedEnvelopeBody "" "") 6 8) && isTextAt b 6 && isTextAt b 8 := by
  rw [ReadsAs, readFile_eq, sharedEnvelopeText, toList_lines]
  · decide +kernel
  · decide +kernel

theorem readsAs_sharedRequest :
    ReadsAs "shared-request.tmpl" sharedRequestText "shared-request" fun b =>
      decide (blankTexts b 6 8 = blankTexts (sharedRequestBody "" "") 6 8) && isTextAt b 6 && isTextAt b 8 := by
  rw [ReadsAs, readFile_eq, sharedRequestText, toList_lines]
  · decide +kernel
  · decide +kernel

end UpnpBind.Render
