/-!
# The binding templates

The five templates bindings are rendered with, one file each, as text. Each
file defines one template named for the artifact kind it renders: a service's
response types and request functions, the shared response envelope and
request helper, and the manifest of one side. A file's text is its lines
joined by newlines.
-/

namespace UpnpBind.Render

/-- The template file module-manifest.tmpl. -/
def moduleManifestText : String :=
  "\n".intercalate [
    "\x7b\x7bdefine \"module-manifest\" -\x7d\x7d",
    "// Code generated by scpdgen. DO NOT EDIT.",
    "",
    "// Package \x7b\x7b.Package\x7d\x7d lists the generated packages of the \x7b\x7b.Side\x7d\x7d side\x7b\x7bwith .Prefix\x7d\x7d of \x7b\x7b.\x7d\x7d\x7b\x7bend\x7d\x7d:",
    "//",
    "\x7b\x7b- range .Modules\x7d\x7d",
    "//\t\x7b\x7b.Path\x7d\x7d",
    "\x7b\x7b- end\x7d\x7d",
    "package \x7b\x7b.Package\x7d\x7d",
    "",
    "// Packages are the import paths of the generated \x7b\x7b.Side\x7d\x7d side packages",
    "var Packages = []string\x7b",
    "\x7b\x7b- range .Modules\x7d\x7d",
    "\t\x7b\x7bquote .Path\x7d\x7d,",
    "\x7b\x7b- end\x7d\x7d",
    "\x7d",
    "\x7b\x7b- end\x7d\x7d",
    ""]

/-- The template file request-functions.tmpl. -/
def requestFunctionsText : String :=
  "\n".intercalate [
    "\x7b\x7bdefine \"request-functions\" -\x7d\x7d",
    "// Code generated by scpdgen. DO NOT EDIT.",
    "",
    "// Package \x7b\x7b.Package\x7d\x7d builds the action requests of service",
    "// \x7b\x7b.Unit.ServiceType\x7d\x7d\x7b\x7bwith .Unit.Device\x7d\x7d of device \x7b\x7b.\x7d\x7d\x7b\x7bend\x7d\x7d.",
    "package \x7b\x7b.Package\x7d\x7d",
    "",
    "import shared \x7b\x7bquote .Shared.Path\x7d\x7d",
    "",
    "const (",
    "\t// ServiceType is the service type URN",
    "\tServiceType = \x7b\x7bquote .Unit.ServiceType\x7d\x7d",
    "\t// ControlURL is the path action requests are posted to",
    "\tControlURL = \x7b\x7bquote .Unit.ControlURL\x7d\x7d",
    ")",
    "\x7b\x7brange .Unit.Actions\x7d\x7d",
    "// New\x7b\x7bgoName .RequestFunctionName\x7d\x7dRequest returns the request of action \x7b\x7b.Name\x7d\x7d",
    "func New\x7b\x7bgoName .RequestFunctionName\x7d\x7dRequest(\x7b\x7brange $i, $p := .Parameters\x7d\x7d\x7b\x7bif $i\x7d\x7d, \x7b\x7bend\x7d\x7d\x7b\x7bparamName $p.Name\x7d\x7d \x7b\x7bgoType $p.Type\x7d\x7d\x7b\x7bend\x7d\x7d) *shared.Request \x7b",
    "\treturn shared.NewRequest(ControlURL, ServiceType, \x7b\x7bquote .Name\x7d\x7d\x7b\x7brange .Parameters\x7d\x7d,",
    "\t\tshared.Arg\x7bName: \x7b\x7bquote .RawName\x7d\x7d, Value: \x7b\x7bparamName .Name\x7d\x7d\x7d\x7b\x7bend\x7d\x7d)",
    "\x7d",
    "\x7b\x7bend\x7d\x7d",
    "\x7b\x7b- end\x7d\x7d",
    ""]

/-- The template file response-types.tmpl. -/
def responseTypesText : String :=
  "\n".intercalate [
    "\x7b\x7bdefine \"response-types\" -\x7d\x7d",
    "// Code generated by scpdgen. DO NOT EDIT.",
    "",
    "// Package \x7b\x7b.Package\x7d\x7d holds the action responses of service",
    "// \x7b\x7b.Unit.ServiceType\x7d\x7d\x7b\x7bwith .Unit.Device\x7d\x7d of device \x7b\x7b.\x7d\x7d\x7b\x7bend\x7d\x7d.",
    "//",
    "// Responses are decoded with the generic envelope of the multi-use",
    "// package next to this one.",
    "package \x7b\x7b.Package\x7d\x7d",
    "",
    "import \"encoding/xml\"",
    "",
    "// ServiceType is the service type URN",
    "const ServiceType = \x7b\x7bquote .Unit.ServiceType\x7d\x7d",
    "\x7b\x7brange .Unit.Actions\x7d\x7d",
    "// \x7b\x7b.ResponseTypeName\x7d\x7d is the response of action \x7b\x7b.Name\x7d\x7d",
    "type \x7b\x7b.ResponseTypeName\x7d\x7d struct \x7b",
    "\tXMLName xml.Name `xml:\"\x7b\x7b.Name\x7d\x7dResponse\"`",
    "\x7b\x7b- range .ResponseFields\x7d\x7d",
    "\x7b\x7b- if or .Default .AllowedValues\x7d\x7d",
    "\t// \x7b\x7b.RawName\x7d\x7d\x7b\x7bwith .Default\x7d\x7d defaults to \x7b\x7b.\x7d\x7d\x7b\x7bend\x7d\x7d\x7b\x7bwith .AllowedValues\x7d\x7d, one of \x7b\x7bjoin . \", \"\x7d\x7d\x7b\x7bend\x7d\x7d",
    "\x7b\x7b- end\x7d\x7d",
    "\t\x7b\x7bgoName .Name\x7d\x7d \x7b\x7bgoType .Type\x7d\x7d `xml:\"\x7b\x7b.RawName\x7d\x7d\"`",
    "\x7b\x7b- end\x7d\x7d",
    "\x7d",
    "\x7b\x7bend\x7d\x7d",
    "\x7b\x7b- end\x7d\x7d",
    ""]

/-- The template file shared-envelope.tmpl. -/
def sharedEnvelopeText : String :=
  "\n".intercalate [
    "\x7b\x7bdefine \"shared-envelope\" -\x7d\x7d",
    "// Code generated by scpdgen. DO NOT EDIT.",
    "",
    "// Package \x7b\x7b.Package\x7d\x7d decodes the SOAP responses of every \x7b\x7b.Prefix\x7d\x7d",
    "// service. The body accepts the response element of any known action.",
    "package \x7b\x7b.Package\x7d\x7d",
    "",
    "import (",
    "\t\"encoding/xml\"",
    "\t\"fmt\"",
    ")",
    "",
    "// Envelope is a SOAP envelope holding a response of type T",
    "type Envelope[T any] struct \x7b",
    "\tXMLName xml.Name `xml:\"http://schemas.xmlsoap.org/soap/envelope/ Envelope\"`",
    "\tBody    Body[T]  `xml:\"http://schemas.xmlsoap.org/soap/envelope/ Body\"`",
    "\x7d",
    "",
    "// Body is a SOAP body holding either a response or a fault",
    "type Body[T any] struct \x7b",
    "\tResponse T",
    "\tFault    *Fault",
    "\x7d",
    "",
    "// aliases are the element names of the known action responses",
    "var aliases = map[string]bool\x7b",
    "\x7b\x7b- range .Aliases\x7d\x7d",
    "\t\x7b\x7bquote (printf \"%sResponse\" .)\x7d\x7d: true,",
    "\x7b\x7b- end\x7d\x7d",
    "\x7d",
    "",
    "// UnmarshalXML decodes the first known response element or fault",
    "// of the body, skipping anything else.",
    "func (b *Body[T]) UnmarshalXML(d *xml.Decoder, start xml.StartElement) error \x7b",
    "\tfor \x7b",
    "\t\ttok, err := d.Token()",
    "\t\tif err != nil \x7b",
    "\t\t\treturn err",
    "\t\t\x7d",
    "\t\tswitch t := tok.(type) \x7b",
    "\t\tcase xml.StartElement:",
    "\t\t\tswitch \x7b",
    "\t\t\tcase t.Name.Local == \"Fault\":",
    "\t\t\t\tb.Fault = &Fault\x7b\x7d",
    "\t\t\t\tif err := d.DecodeElement(b.Fault, &t); err != nil \x7b",
    "\t\t\t\t\treturn err",
    "\t\t\t\t\x7d",
    "\t\t\tcase aliases[t.Name.Local]:",
    "\t\t\t\tif err := d.DecodeElement(&b.Response, &t); err != nil \x7b",
    "\t\t\t\t\treturn err",
    "\t\t\t\t\x7d",
    "\t\t\tdefault:",
    "\t\t\t\tif err := d.Skip(); err != nil \x7b",
    "\t\t\t\t\treturn err",
    "\t\t\t\t\x7d",
    "\t\t\t\x7d",
    "\t\tcase xml.EndElement:",
    "\t\t\treturn nil",
    "\t\t\x7d",
    "\t\x7d",
    "\x7d",
    "",
    "// Fault is a SOAP fault",
    "type Fault struct \x7b",
    "\tFaultCode   string    `xml:\"faultcode\"`",
    "\tFaultString string    `xml:\"faultstring\"`",
    "\tUPnPError   UPnPError `xml:\"detail>UPnPError\"`",
    "\x7d",
    "",
    "// UPnPError is the error detail of a failed action",
    "type UPnPError struct \x7b",
    "\tCode        int    `xml:\"errorCode\"`",
    "\tDescription string `xml:\"errorDescription\"`",
    "\x7d",
    "",
    "func (f *Fault) Error() string \x7b",
    "\tif f.UPnPError.Code != 0 \x7b",
    "\t\treturn fmt.Sprintf(\"%s: %s (%d %s)\", f.FaultCode, f.FaultString, f.UPnPError.Code, f.UPnPError.Description)",
    "\t\x7d",
    "\treturn f.FaultCode + \": \" + f.FaultString",
    "\x7d",
    "",
    "// Decode decodes a SOAP response. A fault is returned as error.",
    "func Decode[T any](data []byte) (*T, error) \x7b",
    "\tvar e Envelope[T]",
    "\tif err := xml.Unmarshal(data, &e); err != nil \x7b",
    "\t\treturn nil, err",
    "\t\x7d",
    "\tif e.Body.Fault != nil \x7b",
    "\t\treturn nil, e.Body.Fault",
    "\t\x7d",
    "\treturn &e.Body.Response, nil",
    "\x7d",
    "\x7b\x7b- end\x7d\x7d",
    ""]

/-- The template file shared-request.tmpl. -/
def sharedRequestText : String :=
  "\n".intercalate [
    "\x7b\x7bdefine \"shared-request\" -\x7d\x7d",
    "// Code generated by scpdgen. DO NOT EDIT.",
    "",
    "// Package \x7b\x7b.Package\x7d\x7d builds the SOAP requests of every \x7b\x7b.Prefix\x7d\x7d",
    "// service.",
    "package \x7b\x7b.Package\x7d\x7d",
    "",
    "import (",
    "\t\"encoding/xml\"",
    "\t\"fmt\"",
    "\t\"strings\"",
    ")",
    "",
    "// Request is a SOAP 1.1 action request",
    "type Request struct \x7b",
    "\t// URI is the control URL path of the service",
    "\tURI string",
    "\t// SOAPAction is the SOAPACTION header value",
    "\tSOAPAction string",
    "\t// Body is the SOAP envelope",
    "\tBody string",
    "\x7d",
    "",
    "// Arg is an action argument. Booleans are encoded as 0 or 1.",
    "type Arg struct \x7b",
    "\tName  string",
    "\tValue any",
    "\x7d",
    "",
    "// NewRequest returns the request of action of serviceType posted to uri",
    "func NewRequest(uri, serviceType, action string, args ...Arg) *Request \x7b",
    "\tvar b strings.Builder",
    "\tb.WriteString(xml.Header)",
    "\tb.WriteString(`<s:Envelope \x7b\x7benvelopeNamespaces\x7d\x7d s:encodingStyle=\"http://schemas.xmlsoap.org/soap/encoding/\"><s:Body>`)",
    "\tfmt.Fprintf(&b, `<u:%s xmlns:u=\"%s\">`, action, escape(serviceType))",
    "\tfor _, arg := range args \x7b",
    "\t\tfmt.Fprintf(&b, \"<%s>%s</%s>\", arg.Name, escape(format(arg.Value)), arg.Name)",
    "\t\x7d",
    "\tfmt.Fprintf(&b, \"</u:%s></s:Body></s:Envelope>\", action)",
    "\treturn &Request\x7b",
    "\t\tURI:        uri,",
    "\t\tSOAPAction: serviceType + \"#\" + action,",
    "\t\tBody:       b.String(),",
    "\t\x7d",
    "\x7d",
    "",
    "func format(v any) string \x7b",
    "\tif b, ok := v.(bool); ok \x7b",
    "\t\tif b \x7b",
    "\t\t\treturn \"1\"",
    "\t\t\x7d",
    "\t\treturn \"0\"",
    "\t\x7d",
    "\treturn fmt.Sprint(v)",
    "\x7d",
    "",
    "func escape(s string) string \x7b",
    "\tvar b strings.Builder",
    "\t_ = xml.EscapeText(&b, []byte(s))",
    "\treturn b.String()",
    "\x7d",
    "\x7b\x7b- end\x7d\x7d",
    ""]

/-- The template files by name, in lexical order. -/
def templateFiles : List (String × String) :=
  [("module-manifest.tmpl", moduleManifestText),
   ("request-functions.tmpl", requestFunctionsText),
   ("response-types.tmpl", responseTypesText),
   ("shared-envelope.tmpl", sharedEnvelopeText),
   ("shared-request.tmpl", sharedRequestText)]

end UpnpBind.Render
