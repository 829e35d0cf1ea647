import UpnpBind.Xml.Reader
import UpnpBind.Text.Decimal
import UpnpBind.Text.Edit
import UpnpBind.Failure

/-!
# Device descriptions

A device description names its root device, which lists icons and services
and may hold sub-devices, recursively. Each text field is the trimmed text of
the first child element of that name; each numeric field is a decimal integer,
0 when absent or empty. The first numeric field that is no integer, in reading
order (specification version, system version, then the device tree with a
device's icons before its sub-devices), fails the whole description, although
reading goes on past it.

A service type is a URN whose fourth colon-separated field is the service's
token, from which its module name is made.
-/

namespace UpnpBind.Description

open UpnpBind.Xml

/-- The architecture version a document adheres to. -/
structure SpecVersion where
  major : Int := 0
  minor : Int := 0
deriving Repr, DecidableEq, Inhabited

/-- The firmware version block some devices add; zero when absent. -/
structure SystemVersion where
  hw : Int := 0
  major : Int := 0
  minor : Int := 0
  patch : Int := 0
  buildnumber : Int := 0
  display : String := ""
deriving Repr, DecidableEq, Inhabited

/-- A device icon. -/
structure Icon where
  mimetype : String
  width : Int
  height : Int
  depth : Int
  url : String
deriving Repr, DecidableEq, Inhabited

/-- A service entry of a device. -/
structure Service where
  serviceType : String := ""
  serviceId : String := ""
  controlUrl : String := ""
  eventSubUrl : String := ""
  scpdUrl : String := ""
deriving Repr, DecidableEq, Inhabited

/-- A device of a description, with its sub-devices. -/
structure Device where
  deviceType : String := ""
  friendlyName : String := ""
  manufacturer : String := ""
  manufacturerUrl : String := ""
  modelDescription : String := ""
  modelName : String := ""
  modelNumber : String := ""
  modelUrl : String := ""
  udn : String := ""
  upc : String := ""
  presentationUrl : String := ""
  icons : List Icon := []
  services : List Service := []
  devices : List Device := []
deriving Repr, Inhabited

/-- A device description document. -/
structure DeviceDescription where
  name : QName
  specVersion : SpecVersion
  systemVersion : SystemVersion
  device : Device
deriving Repr, Inhabited

/-! ## Service types -/

/-- The token of a service type: its fourth colon-separated field, which must
exist and not be empty. -/
def Service.token (s : Service) : Except Failure String :=
  match (Text.split s.serviceType ':')[3]? with
  | some t => if t.isEmpty then .error (notUrn s) else .ok t
  | none => .error (notUrn s)
where
  notUrn (s : Service) : Failure :=
    { kind := .parse, tag := "serviceType", service := s.serviceType,
      message := "service type is not a service URN" }

/-- A service as its type and identifier. -/
def Service.describe (s : Service) : String := s.serviceType ++ " (" ++ s.serviceId ++ ")"

/-! ## Reading numbers -/

/-- Reading that remembers the first failure and goes on. -/
abbrev Tally := StateM (Option Failure)

/-- Records a failure unless one is recorded already. -/
def Tally.note (f : Failure) : Tally Unit :=
  modify fun first => first <|> some f

/-- The integer in the child element `local_` of `n`: 0 when absent or empty;
a text that is no integer is noted and read as 0. -/
def readInt (n : Node) (local_ : String) : Tally Int := do
  let s := n.childText local_
  if s.isEmpty then return 0
  match Text.readInt64 s with
  | .ok v => return v
  | .error e =>
    Tally.note { kind := .parse, tag := local_, message := "invalid integer value " ++ Text.quote s,
                 cause := some (.text (e.message s)) }
    return 0

/-- The specification version in an optional `specVersion` element. -/
def readSpecVersion : Option Node → Tally SpecVersion
  | none => return {}
  | some n => return { major := ← readInt n "major", minor := ← readInt n "minor" }

/-- The system version in a `systemVersion` element. -/
def readSystemVersion (n : Node) : Tally SystemVersion := do
  return { hw := ← readInt n "HW", major := ← readInt n "Major", minor := ← readInt n "Minor",
           patch := ← readInt n "Patch", buildnumber := ← readInt n "Buildnumber",
           display := n.childText "Display" }

/-! ## Reading devices -/

theorem sizeOf_lt_of_mem_childNodes {c n : Node} (h : c ∈ n.childNodes) : sizeOf c < sizeOf n := by
  cases n with
  | element q l s a cs =>
    simp only [Node.childNodes] at h
    have := List.sizeOf_lt_of_mem h
    simp only [Node.element.sizeOf_spec]
    omega
  | text _ => simp [Node.childNodes] at h
  | comment _ => simp [Node.childNodes] at h
  | instruction _ _ => simp [Node.childNodes] at h

theorem sizeOf_lt_of_mem_select {d n : Node} {a b : String} (h : d ∈ n.select [a, b]) :
    sizeOf d < sizeOf n := by
  simp only [Node.select, List.foldl_cons, List.foldl_nil, List.flatMap_cons, List.flatMap_nil,
    List.append_nil, List.mem_flatMap, List.mem_filter] at h
  obtain ⟨c, ⟨hc, _⟩, hd, _⟩ := h
  exact Nat.lt_trans (sizeOf_lt_of_mem_childNodes hd) (sizeOf_lt_of_mem_childNodes hc)

/-- An icon of an `icon` element. -/
def readIcon (n : Node) : Tally Icon := do
  return { mimetype := n.childText "mimetype", width := ← readInt n "width",
           height := ← readInt n "height", depth := ← readInt n "depth", url := n.childText "url" }

/-- A service of a `service` element. -/
def readService (n : Node) : Service :=
  { serviceType := n.childText "serviceType", serviceId := n.childText "serviceId",
    controlUrl := n.childText "controlURL", eventSubUrl := n.childText "eventSubURL",
    scpdUrl := n.childText "SCPDURL" }

/-- A device of a `device` element, with its sub-devices. -/
def readDevice (n : Node) : Tally Device := do
  let icons ← (n.select ["iconList", "icon"]).mapM readIcon
  let services := (n.select ["serviceList", "service"]).map readService
  let devices ← (n.select ["deviceList", "device"]).attach.mapM fun ⟨d, _⟩ => readDevice d
  return { deviceType := n.childText "deviceType", friendlyName := n.childText "friendlyName",
           manufacturer := n.childText "manufacturer", manufacturerUrl := n.childText "manufacturerURL",
           modelDescription := n.childText "modelDescription", modelName := n.childText "modelName",
           modelNumber := n.childText "modelNumber", modelUrl := n.childText "modelURL",
           udn := n.childText "UDN", upc := n.childText "UPC",
           presentationUrl := n.childText "presentationURL", icons, services, devices }
termination_by n
decreasing_by exact sizeOf_lt_of_mem_select (by assumption)

/-- The reading of a description with root element `root` and device element
`dev`: the specification version, the system version, then the device tree. -/
def DeviceDescription.reading (root dev : Node) : Tally DeviceDescription := do
  let specVersion ← readSpecVersion (root.child? "specVersion")
  let systemVersion ← match root.child? "systemVersion" with
    | some sv => readSystemVersion sv
    | none => pure {}
  let device ← readDevice dev
  return { name := root.qname, specVersion, systemVersion, device }

/-- Reads a device description. -/
def DeviceDescription.read (text : String) : Except Failure DeviceDescription := do
  let doc ← match Document.read text with
    | .ok d => pure d
    | .error e => throw { kind := .parse, tag := "root", cause := some (.text e.message) }
  let some root := (doc.roots "root").head?
    | throw { kind := .parse, tag := "root", message := "missing <root> element" }
  let some dev := (root.select ["device"]).head?
    | throw { kind := .parse, tag := "root", message := "missing <device> element" }
  let (r, firstFailure) := (DeviceDescription.reading root dev).run none
  match firstFailure with
  | some f => throw f
  | none => pure r

/-! ## The services of a device tree -/

/-- A service with the device that offers it. -/
structure Visit where
  device : Device
  service : Service
deriving Repr, Inhabited

/-- The services of a device tree in preorder: a device's own services, then
those of each sub-device in document order. -/
def Device.visits (d : Device) : List Visit :=
  d.services.map (fun s => ⟨d, s⟩) ++ d.devices.attach.flatMap fun ⟨sub, _⟩ => sub.visits
termination_by d
decreasing_by
  have := List.sizeOf_lt_of_mem (by assumption : sub ∈ d.devices)
  cases d
  simp_all only [Device.mk.sizeOf_spec]
  omega

end UpnpBind.Description
