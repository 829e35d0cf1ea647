import UpnpBind.Proofs.TemplatePieces
import UpnpBind.Proofs.Identifier
import UpnpBind.Proofs.FinalizedSets

/-!
# What the data can write into the generated source

Each value an artifact's data puts into its expansion stands at a hole of one
kind (`Artifact.pieces`), and keeps to it (`Piece.fits`) when an identifier
hole gets an identifier, the middle of an identifier characters an identifier
may hold, a comment hole a text on one line, and a struct tag hole a text with
no backquote; template text and quoted literals always keep to theirs.

The expansions of an output set keep every value in its hole when the texts of
its units are plain (`ServiceUnit.Plain`): names that make identifiers, and
documentation texts with no line break (`expansions_keep_values_in_their_holes`).
Nothing makes them so: the names are taken as they are normalized, and a state
variable's default value is written into a comment as the description gives it,
so a default with line breaks ends the comment and declares code of its own
(`default_value_escapes_its_comment`).
-/

namespace UpnpBind.Model

open UpnpBind.Naming UpnpBind.Text

/-- A field whose texts keep to their holes: a normalized name of characters
an identifier may hold, and a raw name, default and allowed values on one line,
the raw name with no backquote. -/
structure Field.Plain (f : Field) : Prop where
  name : ∀ c ∈ f.name.toList, identPart c = true
  rawName_oneLine : '\n' ∉ f.rawName.toList
  rawName_noBackquote : '\x60' ∉ f.rawName.toList
  default : '\n' ∉ f.default.toList
  allowedValues : ∀ v ∈ f.allowedValues, '\n' ∉ v.toList

/-- An action whose texts keep to their holes: it is named by ASCII letters,
digits, underscores and hyphens, starting with a letter; its response type name
is the one derived from that name; its request function name holds characters
an identifier may hold; and its arguments are plain. -/
structure ActionModel.Plain (a : ActionModel) : Prop where
  name : ∀ c ∈ a.name.toList, isAsciiWordChar c = true ∨ c = '-'
  name_start : ∃ c cs, a.name.toList = c :: cs ∧ isLetter c = true
  responseTypeName : a.responseTypeName = Naming.responseTypeName a.name
  requestFunctionName : ∀ c ∈ a.requestFunctionName.toList, identPart c = true
  parameters : ∀ f ∈ a.parameters, f.Plain
  responseFields : ∀ f ∈ a.responseFields, f.Plain

/-- A service unit whose texts keep to their holes: its module name is an
identifier, its service type and device name are on one line, and its actions
are plain. -/
structure ServiceUnit.Plain (u : ServiceUnit) : Prop where
  name : isIdentifier u.name = true
  serviceType : '\n' ∉ u.serviceType.toList
  device : '\n' ∉ u.device.toList
  actions : ∀ a ∈ u.actions, a.Plain

end UpnpBind.Model

namespace UpnpBind.Naming

/-- A module name of an identifier prefix, or of none, and an identifier is an
identifier: the underscore that joins them keeps it from every keyword. -/
theorem isIdentifier_moduleName {p n : String} (hp : p = "" ∨ isIdentifier p = true) (hn : isIdentifier n = true) :
    isIdentifier (moduleName p n) = true := by
  rcases hp with rfl | hp
  · simpa [moduleName] using hn
  obtain ⟨c, cs, hcs, hstart, hparts⟩ := exists_cons_of_isIdentifier hp
  have hne : p.isEmpty = false := by simp [← String.toList_eq_nil_iff, hcs]
  have hs : (moduleName p n).toList = c :: (cs ++ '_' :: n.toList) := by simp [moduleName, hne, hcs]
  refine isIdentifier_of_cons hs hstart (fun d hd => ?_) ?_
  · rw [List.mem_append, List.mem_cons] at hd
    rcases hd with hd | rfl | hd
    · exact hparts d hd
    · rfl
    · exact identParts_of_isIdentifier hn d hd
  · exact contains_eq_false_of_not_lower keywords_lower (c := '_') (by simp [hs]) (by decide)

end UpnpBind.Naming

namespace UpnpBind.Render

open UpnpBind.Naming UpnpBind.Text UpnpBind.Model

/-- Whether a piece keeps to its hole. -/
def Piece.fits : Piece → Bool
  | .code _ | .literal _ => true
  | .name s => isIdentifier s
  | .namePart s => s.toList.all identPart
  | .comment s => !s.toList.contains '\n'
  | .tag s => !s.toList.contains '\x60'

@[simp] theorem Piece.fits_code (s : String) : (Piece.code s).fits = true := rfl
@[simp] theorem Piece.fits_literal (s : String) : (Piece.literal s).fits = true := rfl
@[simp] theorem Piece.fits_name (s : String) : (Piece.name s).fits = isIdentifier s := rfl

@[simp] theorem Piece.fits_namePart (s : String) :
    (Piece.namePart s).fits = true ↔ ∀ c ∈ s.toList, identPart c = true := by
  simp [Piece.fits]

@[simp] theorem Piece.fits_comment (s : String) : (Piece.comment s).fits = true ↔ '\n' ∉ s.toList := by
  simp [Piece.fits]

@[simp] theorem Piece.fits_tag (s : String) : (Piece.tag s).fits = true ↔ '\x60' ∉ s.toList := by
  simp [Piece.fits]

theorem oneLine_of_isIdentifier {s : String} (h : isIdentifier s = true) : '\n' ∉ s.toList :=
  not_mem_of_identParts (identParts_of_isIdentifier h) (by decide)

theorem fits_responseFieldPieces {f : Field} (hf : f.Plain) : ∀ q ∈ responseFieldPieces f, q.fits = true := by
  have hname := isIdentifier_exportedName_of_identParts hf.name
  have hvalues : '\n' ∉ (", ".intercalate f.allowedValues).toList := not_mem_intercalate (by decide) hf.allowedValues
  by_cases hd : f.default = "" <;> by_cases ha : f.allowedValues = [] <;>
  simp [responseFieldPieces, hd, ha, hname, hf.rawName_oneLine, hf.rawName_noBackquote, hf.default,
    hvalues, -String.toList_intercalate]

theorem not_mem_of_wordOrHyphen {s : String} (h : ∀ c ∈ s.toList, isAsciiWordChar c = true ∨ c = '-') {c : Char}
    (hw : isAsciiWordChar c = false) (hh : c ≠ '-') : c ∉ s.toList := by
  intro hm
  rcases h c hm with h' | h'
  · exact absurd h' (by simp [hw])
  · exact hh h'

theorem fits_responseActionPieces {a : ActionModel} (ha : a.Plain) : ∀ q ∈ responseActionPieces a, q.fits = true := by
  obtain ⟨c, cs, hcs, hc⟩ := ha.name_start
  have htype : isIdentifier a.responseTypeName = true :=
    ha.responseTypeName ▸ isIdentifier_responseTypeName ha.name hcs hc
  have hline : '\n' ∉ a.name.toList := not_mem_of_wordOrHyphen ha.name (by decide) (by decide)
  have hquote : '\x60' ∉ a.name.toList := not_mem_of_wordOrHyphen ha.name (by decide) (by decide)
  have hfields : ∀ f ∈ a.responseFields, ∀ q ∈ responseFieldPieces f, q.fits = true :=
    fun f hf => fits_responseFieldPieces (ha.responseFields f hf)
  simp only [responseActionPieces, List.forall_mem_append, List.forall_mem_cons, List.forall_mem_flatMap,
    List.not_mem_nil, false_implies, implies_true, and_true, true_and, Piece.fits_code, Piece.fits_name,
    Piece.fits_comment, Piece.fits_tag, htype]
  exact ⟨⟨oneLine_of_isIdentifier htype, hline, hquote⟩, hfields⟩

theorem fits_unitHeaderPieces {pkg does : String} {u : ServiceUnit} (hpkg : '\n' ∉ pkg.toList) (hu : u.Plain) :
    ∀ q ∈ unitHeaderPieces pkg u does, q.fits = true := by
  by_cases hdev : u.device = "" <;> simp [unitHeaderPieces, hdev, hpkg, hu.serviceType, hu.device]

theorem fits_responseTypesPieces {pkg : String} {u : ServiceUnit} (hpkg : isIdentifier pkg = true) (hu : u.Plain) :
    ∀ q ∈ responseTypesPieces pkg u, q.fits = true := by
  have hactions : ∀ a ∈ u.actions, ∀ q ∈ responseActionPieces a, q.fits = true :=
    fun a ha => fits_responseActionPieces (hu.actions a ha)
  simp only [responseTypesPieces, List.forall_mem_append, List.forall_mem_cons, List.forall_mem_flatMap,
    List.not_mem_nil, false_implies, implies_true, and_true, Piece.fits_code, Piece.fits_literal, Piece.fits_name,
    hpkg]
  exact ⟨fits_unitHeaderPieces (oneLine_of_isIdentifier hpkg) hu, hactions⟩

theorem fits_parameterPieces {f : Field} (hf : f.Plain) (i : Nat) : ∀ q ∈ parameterPieces i f, q.fits = true := by
  have hname := isIdentifier_parameterName_of_identParts hf.name
  by_cases hi : i = 0 <;> simp [parameterPieces, hi, hname]

theorem fits_argumentPieces {f : Field} (hf : f.Plain) : ∀ q ∈ argumentPieces f, q.fits = true := by
  simp [argumentPieces, isIdentifier_parameterName_of_identParts hf.name]

theorem fits_requestActionPieces {a : ActionModel} (ha : a.Plain) : ∀ q ∈ requestActionPieces a, q.fits = true := by
  have hname := isIdentifier_exportedName_of_identParts ha.requestFunctionName
  have hline : '\n' ∉ a.name.toList := not_mem_of_wordOrHyphen ha.name (by decide) (by decide)
  have hparams : ∀ ps ∈ a.parameters.mapIdx parameterPieces, ∀ q ∈ ps, q.fits = true := by
    intro ps hps
    obtain ⟨i, hi, rfl⟩ := List.mem_mapIdx.mp hps
    exact fits_parameterPieces (ha.parameters _ (List.getElem_mem hi)) i
  have hargs : ∀ f ∈ a.parameters, ∀ q ∈ argumentPieces f, q.fits = true :=
    fun f hf => fits_argumentPieces (ha.parameters f hf)
  simp only [requestActionPieces, List.forall_mem_append, List.forall_mem_cons, List.forall_mem_flatMap,
    List.forall_mem_flatten, List.not_mem_nil, false_implies, implies_true, and_true, true_and, Piece.fits_code,
    Piece.fits_literal, Piece.fits_comment, Piece.fits_namePart]
  exact ⟨⟨⟨oneLine_of_isIdentifier hname, hline, identParts_of_isIdentifier hname⟩, hparams⟩, hargs⟩

theorem fits_requestFunctionsPieces {pkg : String} {u : ServiceUnit} (shared : Import) (hpkg : isIdentifier pkg = true)
    (hu : u.Plain) : ∀ q ∈ requestFunctionsPieces pkg u shared, q.fits = true := by
  have hactions : ∀ a ∈ u.actions, ∀ q ∈ requestActionPieces a, q.fits = true :=
    fun a ha => fits_requestActionPieces (hu.actions a ha)
  simp only [requestFunctionsPieces, List.forall_mem_append, List.forall_mem_cons, List.forall_mem_flatMap,
    List.not_mem_nil, false_implies, implies_true, and_true, Piece.fits_code, Piece.fits_literal, Piece.fits_name,
    hpkg]
  exact ⟨fits_unitHeaderPieces (oneLine_of_isIdentifier hpkg) hu, hactions⟩

theorem fits_manifestPieces {pkg p side : String} {modules : List Import} (hpkg : isIdentifier pkg = true)
    (hp : '\n' ∉ p.toList) (hside : '\n' ∉ side.toList) (hmods : ∀ m ∈ modules, '\n' ∉ m.path.toList) :
    ∀ q ∈ manifestPieces pkg p side modules, q.fits = true := by
  have hprefixOk : ∀ q ∈ (if p.isEmpty then [] else [Piece.code " of ", .comment p]), q.fits = true := by
    split <;> simp [hp]
  simp only [manifestPieces, List.forall_mem_append, List.forall_mem_cons, List.forall_mem_flatMap,
    List.not_mem_nil, false_implies, implies_true, and_true, true_and, Piece.fits_code, Piece.fits_literal,
    Piece.fits_name, Piece.fits_comment, hpkg]
  exact ⟨⟨⟨⟨oneLine_of_isIdentifier hpkg, hside⟩, hprefixOk⟩, hmods⟩, hside⟩

theorem fits_sharedEnvelopePieces {pkg p : String} (aliases : List String) (hpkg : isIdentifier pkg = true)
    (hp : '\n' ∉ p.toList) : ∀ q ∈ sharedEnvelopePieces pkg p aliases, q.fits = true := by
  simp only [sharedEnvelopePieces, List.forall_mem_append, List.forall_mem_cons, List.forall_mem_flatMap,
    List.not_mem_nil, false_implies, implies_true, and_true, true_and, Piece.fits_code, Piece.fits_literal,
    Piece.fits_name, Piece.fits_comment, hpkg]
  exact ⟨oneLine_of_isIdentifier hpkg, hp⟩

theorem fits_sharedRequestPieces {pkg p : String} (hpkg : isIdentifier pkg = true) (hp : '\n' ∉ p.toList) :
    ∀ q ∈ sharedRequestPieces pkg p, q.fits = true := by
  simp only [sharedRequestPieces, List.forall_mem_cons, List.not_mem_nil, false_implies, implies_true, and_true,
    true_and, Piece.fits_code, Piece.fits_name, Piece.fits_comment, hpkg]
  exact ⟨oneLine_of_isIdentifier hpkg, hp⟩

/-! ## Every artifact of an output set -/

section Artifacts

variable {o : OutputSet} (hfin : o.finalized = false) (hprefixOk : o.prefix_ = "" ∨ isIdentifier o.prefix_ = true)
  (hunits : ∀ u ∈ o.units, u.Plain)

include hfin hunits in
/-- A unit finalizing keeps is plain, with both module names its module. -/
theorem plain_of_mem_finalize_units {k : ServiceUnit} (hk : k ∈ o.finalize.units) :
    k.Plain ∧ k.responseModule = moduleName o.prefix_ k.name ∧ k.requestModule = moduleName o.prefix_ k.name := by
  rw [OutputSet.finalize_eq hfin] at hk
  obtain ⟨u, hu, rfl⟩ := exists_of_mem_keepUnits_fst o.prefix_ hk
  have hp := hunits u hu
  exact ⟨⟨hp.name, hp.serviceType, hp.device, hp.actions⟩, rfl, rfl⟩

include hfin hprefixOk hunits in
/-- Every module a manifest lists is an identifier: the shared module, or a
module of one of the units. -/
theorem isIdentifier_of_mem_manifest {m : String}
    (hm : m ∈ o.finalize.requestManifest ∨ m ∈ o.finalize.responseManifest) : isIdentifier m = true := by
  have hsame : o.finalize.responseManifest = o.finalize.requestManifest := by rw [OutputSet.finalize_eq hfin]
  rw [hsame, or_self, (OutputSet.mem_manifest_iff hfin m).1] at hm
  rcases hm with rfl | ⟨u, hu, rfl⟩
  · exact isIdentifier_moduleName hprefixOk (by decide)
  · exact isIdentifier_moduleName hprefixOk (hunits u hu).name

end Artifacts

/-- Expanding the artifacts of an output set, each value the data writes keeps to
its hole, as long as the texts of the units are plain, the prefix is empty or an
identifier, and the import path is on one line: every identifier hole gets an
identifier, every comment hole a text on one line, every struct tag hole a text
with no backquote; the other values are written as quoted literals. -/
theorem expansions_keep_values_in_their_holes (o : OutputSet) (importPath : String) (hfin : o.finalized = false)
    (hprefixOk : o.prefix_ = "" ∨ isIdentifier o.prefix_ = true) (hpath : '\n' ∉ importPath.toList)
    (hunits : ∀ u ∈ o.units, u.Plain) :
    ∀ a ∈ o.artifacts importPath, expand a = .ok (piecesText a.pieces) ∧ ∀ q ∈ a.pieces, q.fits = true := by
  intro a ha
  refine ⟨expand_eq_piecesText o importPath ha, ?_⟩
  have hpre : o.finalize.prefix_ = o.prefix_ := by rw [OutputSet.finalize_eq hfin]
  have hline : '\n' ∉ o.finalize.prefix_.toList := by
    rcases hpre ▸ hprefixOk with h | h
    · simp [h]
    · exact oneLine_of_isIdentifier h
  -- the shared module and both side directories are module names under the prefix
  have hshared : isIdentifier o.finalize.sharedModule = true := by
    rw [OutputSet.finalize_eq hfin]
    exact isIdentifier_moduleName hprefixOk (by decide)
  have hdir : ∀ side, side = responsesSide ∨ side = requestsSide →
      isIdentifier (sideDir o.finalize.prefix_ side) = true := by
    rintro side (rfl | rfl) <;> exact hpre ▸ isIdentifier_moduleName hprefixOk (by decide)
  -- a manifest lists paths of the import path, its side directory and a module, each on one line
  have hpaths : ∀ side m, (side = responsesSide ∨ side = requestsSide) →
      (m ∈ o.finalize.requestManifest ∨ m ∈ o.finalize.responseManifest) →
      '\n' ∉ (joinPath [importPath, sideDir o.finalize.prefix_ side, m]).toList := by
    intro side m hside hm
    refine not_mem_joinPath (by decide) (by decide) fun part hpart => ?_
    simp only [List.mem_cons, List.not_mem_nil, or_false] at hpart
    rcases hpart with rfl | rfl | rfl
    · exact hpath
    · exact oneLine_of_isIdentifier (hdir side hside)
    · exact oneLine_of_isIdentifier (isIdentifier_of_mem_manifest hfin hprefixOk hunits hm)
  simp only [OutputSet.artifacts, OutputSet.manifestArtifact, List.mem_append, List.mem_flatMap, List.mem_cons,
    List.mem_nil_iff, or_false] at ha
  rcases ha with ⟨k, hk, rfl | rfl⟩ | rfl | rfl | rfl | rfl
  · obtain ⟨hkp, hresp, -⟩ := plain_of_mem_finalize_units hfin hunits hk
    exact fits_responseTypesPieces (hresp ▸ isIdentifier_moduleName hprefixOk hkp.name) hkp
  · obtain ⟨hkp, -, hreq⟩ := plain_of_mem_finalize_units hfin hunits hk
    exact fits_requestFunctionsPieces _ (hreq ▸ isIdentifier_moduleName hprefixOk hkp.name) hkp
  · exact fits_sharedEnvelopePieces _ hshared hline
  · exact fits_sharedRequestPieces hshared hline
  · refine fits_manifestPieces (hdir _ (.inl rfl)) hline (by decide) ?_
    simp only [List.mem_map]
    rintro _ ⟨m, hm, rfl⟩
    exact hpaths responsesSide m (.inl rfl) (.inr hm)
  · refine fits_manifestPieces (hdir _ (.inr rfl)) hline (by decide) ?_
    simp only [List.mem_map]
    rintro _ ⟨m, hm, rfl⟩
    exact hpaths requestsSide m (.inr rfl) (.inl hm)

/-- A service with one action, whose response field documents a default value. -/
def infoUnit (default : String) : ServiceUnit :=
  { serviceType := "urn:x:service:Info:1", serviceId := "id", controlUrl := "/ctl", scpdUrl := "/s.xml",
    name := "info", device := "box",
    actions := [{ name := "GetInfo", responseTypeName := "GetInfoResponse", requestFunctionName := "get_info",
                  responseFields := [{ rawName := "NewEnable", name := "new_enable", type := .boolean, default }] }] }

/-- The output set of that service under the prefix "fritz". -/
def infoSet (default : String) : OutputSet :=
  ((OutputSet.new "fritz").addNames ["GetInfo"]).addUnits [infoUnit default]

theorem infoUnit_plain : (infoUnit "1").Plain := by
  have hname : ∀ c ∈ "GetInfo".toList, isAsciiWordChar c = true ∨ c = '-' := by
    have h : "GetInfo".toList.all (fun c => isAsciiWordChar c || c == '-') = true := by decide +kernel
    simpa using h
  refine ⟨by decide +kernel, by decide, by decide, ?_⟩
  simp only [infoUnit, List.mem_singleton, forall_eq]
  refine ⟨hname, ⟨'G', "etInfo".toList, by decide, by decide +kernel⟩, by decide, ?_, by simp, ?_⟩
  · exact List.all_eq_true.mp (by decide +kernel)
  · simp only [List.mem_singleton, forall_eq]
    exact ⟨List.all_eq_true.mp (by decide +kernel), by decide, by decide, by decide, by simp⟩

theorem info_expansions_keep_values_in_their_holes :
    (infoSet "1").finalized = false ∧ ((infoSet "1").prefix_ = "" ∨ isIdentifier (infoSet "1").prefix_ = true) ∧
      '\n' ∉ "example.com/out".toList ∧ (∀ u ∈ (infoSet "1").units, u.Plain) ∧
      ∀ a ∈ (infoSet "1").artifacts "example.com/out",
        expand a = .ok (piecesText a.pieces) ∧ ∀ q ∈ a.pieces, q.fits = true :=
  have hfin : (infoSet "1").finalized = false := rfl
  have hprefixOk : (infoSet "1").prefix_ = "" ∨ isIdentifier (infoSet "1").prefix_ = true := .inr (by decide +kernel)
  have hpath : '\n' ∉ "example.com/out".toList := by decide
  have hunits : ∀ u ∈ (infoSet "1").units, u.Plain := by
    simp only [infoSet, OutputSet.new, OutputSet.addNames, OutputSet.addUnits, List.nil_append, List.mem_singleton,
      forall_eq]
    exact infoUnit_plain
  ⟨hfin, hprefixOk, hpath, hunits, expansions_keep_values_in_their_holes _ _ hfin hprefixOk hpath hunits⟩

theorem default_value_escapes_its_comment :
    ∃ a ∈ (infoSet "1\n\x7d\n\nfunc init() \x7b panic(0) \x7d\n\ntype Z struct \x7b").artifacts "example.com/out",
      ∃ pre post, expand a = .ok (pre ++ "\nfunc init() \x7b panic(0) \x7d\n" ++ post) := by
  let d := "1\n\x7d\n\nfunc init() \x7b panic(0) \x7d\n\ntype Z struct \x7b"
  -- the unit is kept, under the module fritz_info
  have hk : { infoUnit d with requestModule := moduleName "fritz" "info", responseModule := moduleName "fritz" "info" } ∈
      (infoSet d).finalize.units := by
    rw [OutputSet.finalize_eq rfl]
    simp only [infoSet, OutputSet.new, OutputSet.addNames, OutputSet.addUnits, List.nil_append]
    rw [keepUnits_cons_of_not_mem _ (by decide)]
    exact List.mem_cons_self ..
  refine ⟨_, List.mem_append_left _ (List.mem_flatMap.mpr ⟨_, hk, List.mem_cons_self ..⟩), ?_⟩
  rw [expand_responseTypes]
  have hmem : Piece.comment d ∈ responseTypesPieces (moduleName "fritz" "info")
      { infoUnit d with requestModule := moduleName "fritz" "info", responseModule := moduleName "fritz" "info" } := by
    simp [responseTypesPieces, infoUnit, responseActionPieces, responseFieldPieces, d]
  obtain ⟨s, t, hst⟩ := List.append_of_mem hmem
  refine ⟨piecesText s ++ "1\n\x7d\n", "\ntype Z struct \x7b" ++ piecesText t, ?_⟩
  have hd : d = "1\n\x7d\n" ++ "\nfunc init() \x7b panic(0) \x7d\n" ++ "\ntype Z struct \x7b" := by decide
  rw [hst, piecesText_append, piecesText_cons, Piece.text_comment, hd]
  simp only [String.append_assoc]

end UpnpBind.Render
