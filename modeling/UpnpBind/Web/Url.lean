import UpnpBind.Text.Quoted
import UpnpBind.Text.Edit

/-!
# URLs

A URL is split into scheme, authority (user information and host with an
optional port), path, query and fragment; a URL with a scheme whose rest does
not start with `/` is rootless (`mailto:x`). Parsing checks what the parts
may hold: no control characters anywhere, a scheme of letters, digits, `+`,
`-` and `.` starting with a letter, a bracketed IPv6 host closed by `]`, a
numeric port, percent escapes of two hexadecimal digits, and in a host only
the characters a host name may hold (percent escapes there only for bytes
outside ASCII). A relative URL whose first segment holds a colon is refused.

A failure reads `parse "<url>": <why>`, the URL given without its fragment.
-/

namespace UpnpBind.Web

open Text

/-- The user information of a URL: a name and maybe a password, both decoded. -/
structure Userinfo where
  name : String
  password : Option String := none
deriving Repr, Inhabited, DecidableEq

/-- A parsed URL. The path and the fragment are kept decoded and as written. -/
structure Url where
  scheme : String := ""
  /-- The rest of a URL with a scheme that does not start with `/`. -/
  rootless : String := ""
  user : Option Userinfo := none
  host : String := ""
  /-- Whether a URL with a scheme had a path but no authority at all. -/
  omitHost : Bool := false
  path : String := ""
  rawPath : String := ""
  /-- Whether the URL ended in a `?` with nothing after it. -/
  forceQuery : Bool := false
  rawQuery : String := ""
  fragment : String := ""
  rawFragment : String := ""
deriving Repr, Inhabited, DecidableEq

/-- Where a percent escape appears, which decides what it may encode. -/
inductive UrlPart where
  | host
  | zone
  | path
  | userPassword
  | fragment
deriving Repr, DecidableEq

/-- Whether a byte must be escaped in a part of a URL. -/
def mustEscape (c : Nat) (part : UrlPart) : Bool :=
  let ch := Char.ofNat c
  if ('a' ≤ ch && ch ≤ 'z') || ('A' ≤ ch && ch ≤ 'Z') || ('0' ≤ ch && ch ≤ '9') then false
  else if (part == .host || part == .zone) && "!$&'()*+,;=:[]<>\"".contains ch then false
  else if "-_.~".contains ch then false
  else if "$&+,/:;=?@".contains ch then
    match part with
    | .path => ch == '?'
    | .userPassword => ch == '@' || ch == '/' || ch == '?' || ch == ':'
    | .fragment => false
    | _ => true
  else if part == .fragment && "!()*".contains ch then false
  else true

/-- Whether a character is a hexadecimal digit. -/
def isHexDigit (c : Char) : Bool :=
  ('0' ≤ c && c ≤ '9') || ('a' ≤ c && c ≤ 'f') || ('A' ≤ c && c ≤ 'F')

/-- The value of a hexadecimal digit. -/
def hexDigitValue (c : Char) : Nat :=
  if '0' ≤ c && c ≤ '9' then c.toNat - 48
  else if 'a' ≤ c && c ≤ 'f' then c.toNat - 87
  else c.toNat - 55

/-- Text from bytes; each byte of a broken UTF-8 sequence reads as U+FFFD. -/
def bytesText (bytes : List UInt8) : String :=
  match String.fromUTF8? (ByteArray.mk bytes.toArray) with
  | some s => s
  | none => String.ofList (bytes.map fun b => if b < 0x80 then Char.ofNat b.toNat else '\uFFFD')

/-- The bytes of a text, one list per character. -/
def charBytes (c : Char) : List UInt8 := (String.singleton c).toUTF8.toList

/-- Decodes the percent escapes of a part of a URL, checking that the part
may hold what it holds. -/
def unescape (s : String) (part : UrlPart) : Except String String := Id.run do
  let cs := s.toList
  let mut out : List UInt8 := []
  let mut rest := cs
  for _ in [0:cs.length + 1] do
    match rest with
    | [] => break
    | '%' :: more =>
      match more with
      | a :: b :: tail =>
        if !(isHexDigit a && isHexDigit b) then
          return .error ("invalid URL escape " ++ quote (String.ofList (rest.take 3)))
        let v := hexDigitValue a * 16 + hexDigitValue b
        let esc := String.ofList ['%', a, b]
        if part == .host && hexDigitValue a < 8 && esc != "%25" then
          return .error ("invalid URL escape " ++ quote esc)
        if part == .zone && esc != "%25" && v != 32 && mustEscape v .host then
          return .error ("invalid URL escape " ++ quote esc)
        out := out ++ [v.toUInt8]
        rest := tail
      | _ => return .error ("invalid URL escape " ++ quote (String.ofList (rest.take 3)))
    | c :: more =>
      if (part == .host || part == .zone) && c.toNat < 0x80 && mustEscape c.toNat part then
        return .error ("invalid character " ++ quote (String.singleton c) ++ " in host name")
      out := out ++ charBytes c
      rest := more
  return .ok (bytesText out)

/-- Whether a port part is empty or a colon and digits. -/
def validOptionalPort (port : String) : Bool :=
  match port.toList with
  | [] => true
  | ':' :: digits => digits.all fun c => '0' ≤ c && c ≤ '9'
  | _ => false

/-- The position of the last occurrence of a character. -/
def lastIndexOf (s : String) (c : Char) : Option Nat :=
  let cs := s.toList
  (List.range cs.length).reverse.find? fun i => cs[i]? == some c

/-- The position of the first occurrence of a text. -/
def indexOfText (s sub : String) : Option Nat :=
  let cs := s.toList
  let ps := sub.toList
  (List.range (cs.length + 1)).find? fun i => (cs.drop i).take ps.length == ps && i + ps.length ≤ cs.length

/-- The characters of a text between two positions. -/
def slice (s : String) (start stop : Nat) : String := String.ofList ((s.toList.drop start).take (stop - start))

/-- The characters of a text from a position on. -/
def sliceFrom (s : String) (start : Nat) : String := String.ofList (s.toList.drop start)

/-- A host with an optional port. -/
def parseHost (host : String) : Except String String :=
  if host.startsWith "[" then
    match lastIndexOf host ']' with
    | none => .error "missing ']' in host"
    | some i =>
      let colonPort := sliceFrom host (i + 1)
      if !validOptionalPort colonPort then .error ("invalid port " ++ quote colonPort ++ " after host")
      else
        match indexOfText (slice host 0 i) "%25" with
        | some zone => do
          let h1 ← unescape (slice host 0 zone) .host
          let h2 ← unescape (slice host zone i) .zone
          let h3 ← unescape (sliceFrom host i) .host
          return h1 ++ h2 ++ h3
        | none => unescape host .host
  else
    match lastIndexOf host ':' with
    | some i =>
      let colonPort := sliceFrom host i
      if !validOptionalPort colonPort then .error ("invalid port " ++ quote colonPort ++ " after host")
      else unescape host .host
    | none => unescape host .host

/-- Whether user information holds only the characters it may. -/
def validUserinfo (s : String) : Bool :=
  s.toList.all fun c =>
    ('A' ≤ c && c ≤ 'Z') || ('a' ≤ c && c ≤ 'z') || ('0' ≤ c && c ≤ '9') || "-._:~!$&'()*+,;=%@".contains c

/-- The user information and host of an authority. -/
def parseAuthority (authority : String) : Except String (Option Userinfo × String) := do
  match lastIndexOf authority '@' with
  | none => return (none, ← parseHost authority)
  | some i =>
    let host ← parseHost (sliceFrom authority (i + 1))
    let userinfo := slice authority 0 i
    if !validUserinfo userinfo then throw "net/url: invalid userinfo"
    match userinfo.splitOn ":" with
    | [name] => return (some ⟨← unescape name .userPassword, none⟩, host)
    | name :: _ =>
      let name' ← unescape name .userPassword
      let password ← unescape (sliceFrom userinfo (name.length + 1)) .userPassword
      return (some ⟨name', some password⟩, host)
    | [] => return (some ⟨"", none⟩, host)

/-- The scheme of a URL and the rest; no scheme when the text does not start with one. -/
def splitScheme (raw : String) : Except String (String × String) :=
  let cs := raw.toList
  let rec go : List Char → Nat → Except String (String × String)
    | [], _ => .ok ("", raw)
    | c :: rest, i =>
      if ('a' ≤ c && c ≤ 'z') || ('A' ≤ c && c ≤ 'Z') then go rest (i + 1)
      else if ('0' ≤ c && c ≤ '9') || c == '+' || c == '-' || c == '.' then
        if i == 0 then .ok ("", raw) else go rest (i + 1)
      else if c == ':' then
        if i == 0 then .error "missing protocol scheme"
        else .ok (String.ofList (cs.take i), String.ofList (cs.drop (i + 1)))
      else .ok ("", raw)
  go cs 0

/-- Parses a URL without its fragment. -/
def parseWithoutFragment (raw : String) : Except String Url := do
  if raw.toList.any fun c => c.toNat < 0x20 || c.toNat == 0x7f then
    throw "net/url: invalid control character in URL"
  if raw == "*" then return { path := "*" }
  let (scheme, rest) ← splitScheme raw
  let scheme := scheme.toLower
  let forceQuery := rest.endsWith "?" && (rest.toList.filter (· == '?')).length == 1
  let (rest, rawQuery) :=
    if forceQuery then
      (String.ofList (rest.toList.dropLast), "")
    else
      match rest.splitOn "?" with
      | r :: q :: more => (r, "?".intercalate (q :: more))
      | _ => (rest, "")
  if !rest.startsWith "/" then
    if scheme != "" then return { scheme, rootless := rest, forceQuery, rawQuery }
    let segment := (rest.splitOn "/").headD ""
    if segment.contains ':' then throw "first path segment in URL cannot contain colon"
  let mut url : Url := { scheme, forceQuery, rawQuery }
  let mut rest := rest
  if (scheme != "" || !rest.startsWith "///") && rest.startsWith "//" then
    let authority := sliceFrom rest 2
    let (authority, path) := match authority.toList.findIdx? (· == '/') with
      | some i => (slice authority 0 i, sliceFrom authority i)
      | none => (authority, "")
    let (user, host) ← parseAuthority authority
    url := { url with user, host }
    rest := path
  else if scheme != "" && rest.startsWith "/" then
    url := { url with omitHost := true }
  let path ← unescape rest .path
  return { url with path, rawPath := rest }

/-- Parses a URL. -/
def Url.parse (raw : String) : Except String Url :=
  let (u, frag) := match raw.splitOn "#" with
    | u :: f :: more => (u, some ("#".intercalate (f :: more)))
    | _ => (raw, none)
  match parseWithoutFragment u with
  | .error e => .error ("parse " ++ quote u ++ ": " ++ e)
  | .ok url =>
    match frag with
    | none => .ok url
    | some f =>
      match unescape f .fragment with
      | .ok fragment => .ok { url with fragment, rawFragment := f }
      | .error e => .error ("parse " ++ quote raw ++ ": " ++ e)

/-- The two hexadecimal digits of a byte's escape, in upper case. -/
def upperHex (n : Nat) : List Char :=
  let digit (d : Nat) : Char := if d < 10 then Char.ofNat (48 + d) else Char.ofNat (55 + d)
  [digit (n / 16 % 16), digit (n % 16)]

/-- A part of a URL with every byte it may not hold escaped. -/
def escape (s : String) (part : UrlPart) : String :=
  String.ofList (s.toUTF8.toList.flatMap fun b =>
    if mustEscape b.toNat part then '%' :: upperHex b.toNat else [Char.ofNat b.toNat])

/-- Whether a written part holds only what it may hold unescaped, or escapes. -/
def validEncoded (s : String) (part : UrlPart) : Bool :=
  s.toUTF8.toList.all fun b =>
    "!$&'()*+,;=:@[]%".contains (Char.ofNat b.toNat) || !mustEscape b.toNat part

/-- The user information as it appears in the URL's text. -/
def Userinfo.text (ui : Userinfo) : String :=
  escape ui.name .userPassword ++
    match ui.password with
    | some p => ":" ++ escape p .userPassword
    | none => ""

namespace Url

/-- The path as it appears in the URL's text: as written when that is a valid
form of it, else escaped. -/
def escapedPath (u : Url) : String :=
  if u.rawPath != "" && validEncoded u.rawPath .path then u.rawPath
  else if u.path == "*" then "*"
  else escape u.path .path

/-- The fragment as it appears in the URL's text. -/
def escapedFragment (u : Url) : String :=
  if u.rawFragment != "" && validEncoded u.rawFragment .fragment then u.rawFragment
  else escape u.fragment .fragment

/-- The text of a URL, put together from its parts. -/
def text (u : Url) : String :=
  let schemePart := if u.scheme != "" then u.scheme ++ ":" else ""
  let body :=
    if u.rootless != "" then u.rootless
    else
      let authority :=
        if u.scheme != "" || u.host != "" || u.user.isSome then
          if u.omitHost && u.host == "" && u.user.isNone then ""
          else
            (if u.host != "" || u.path != "" || u.user.isSome then "//" else "") ++
            (match u.user with
             | some ui => ui.text ++ "@"
             | none => "") ++
            escape u.host .host
        else ""
      let path := u.escapedPath
      let slash := if path != "" && !path.startsWith "/" && u.host != "" then "/" else ""
      let dot :=
        if (schemePart ++ authority ++ slash).isEmpty &&
            ((path.splitOn "/").headD "").contains ':' then "./" else ""
      authority ++ slash ++ dot ++ path
  let query := if u.forceQuery || u.rawQuery != "" then "?" ++ u.rawQuery else ""
  let fragment := if u.fragment != "" then "#" ++ u.escapedFragment else ""
  schemePart ++ body ++ query ++ fragment

/-- The text of a URL with its password, if it has one, shown as `***`. -/
def textHidingPassword (u : Url) : String :=
  match u.user with
  | some ui =>
    if ui.password.isSome then
      Text.replaceFirst u.text (ui.text ++ "@") (ui.name ++ ":***@")
    else u.text
  | none => u.text

/-- The host and port split, the port empty when there is none; a bracketed
host loses its brackets. -/
def splitHostPort (hostPort : String) : String × String :=
  let (host, port) := match lastIndexOf hostPort ':' with
    | some i =>
      if validOptionalPort (sliceFrom hostPort i) then (slice hostPort 0 i, sliceFrom hostPort (i + 1))
      else (hostPort, "")
    | none => (hostPort, "")
  if host.startsWith "[" && host.endsWith "]" then
    (String.ofList (host.toList.drop 1).dropLast, port)
  else (host, port)

/-- The host without its port. -/
def hostname (u : Url) : String := (splitHostPort u.host).1

/-- The port, empty when there is none. -/
def port (u : Url) : String := (splitHostPort u.host).2

/-- The URL with a colon at the end of its host, naming no port, dropped. -/
def withoutEmptyPort (u : Url) : Url :=
  let lastColon := lastIndexOf u.host ':'
  let lastBracket := lastIndexOf u.host ']'
  let hasPort := match lastColon, lastBracket with
    | some c, some b => c > b
    | some _, none => true
    | none, _ => false
  if hasPort && u.host.endsWith ":" then { u with host := String.ofList u.host.toList.dropLast } else u

end Url

end UpnpBind.Web
