import UpnpBind.Fetch.Basic
import UpnpBind.Web.Url
import UpnpBind.Web.MediaType

/-!
# Fetching over HTTP

A document on a live device is fetched with a GET request. The URL must
parse; the request fails before any connection when its scheme is not `http`
or `https`, when it names no host, or when the request was cancelled. The
network answers the request with a response, or says why it could not: the
fetch then fails with the client's message, `Get "<url>": <why>`, where the
URL is shown with its password hidden.

A response fails the fetch unless its status is 2xx and its content type is
textual: absent, `text/*`, `application/xml` or `*+xml`. A body that cannot be
read in full fails it too.

Where the network cannot be reached at all, every connection fails at the
dial to the host's address, with the port of the scheme when the URL gives
none.
-/

namespace UpnpBind.Fetch

open Web

/-- What a server answered: the status code and line, the content type if one
was sent, and the body or why it could not be read. -/
structure Response where
  status : Nat
  statusLine : String
  contentType : Option String := none
  body : Except String String

/-- A way to reach servers: the response to a GET of a URL, or why there is none. -/
abbrev Transport := Url → Except String Response

/-- The address dialled for a URL: its host without brackets and its port,
or the port of its scheme, joined again. -/
def dialAddress (u : Url) : String :=
  let port := if u.port.isEmpty then (if u.scheme == "https" then "443" else "80") else u.port
  let host := u.hostname
  if host.contains ':' then "[" ++ host ++ "]:" ++ port else host ++ ":" ++ port

/-- A network that cannot be reached: every dial fails. -/
def Transport.unreachable : Transport := fun u =>
  .error ("dial tcp " ++ dialAddress u ++ ": connect: network is unreachable")

/-- Whether a content type denotes text; an absent one does. -/
def textual (contentType : String) : Bool :=
  if contentType.isEmpty then true
  else
    match mediaType? contentType with
    | some m => m.startsWith "text/" || m == "application/xml" || m.endsWith "+xml"
    | none => false

/-- Documents fetched over a network. -/
def overHttp (transport : Transport) (cancelled : Bool) : Fetcher := fun url => do
  let fail (details : List Detail) : Error := .failure (Failure.raise .fetch url details)
  match Url.parse url with
  | .error e => throw (fail [.cause (.text e)])
  | .ok u =>
    let u := u.withoutEmptyPort
    Logged.verbose 1 "fetch.go" 64 ("GET " ++ url)
    let refused (why : String) : Error :=
      fail [.cause (.text ("Get " ++ Text.quote u.textHidingPassword ++ ": " ++ why))]
    if u.scheme != "http" && u.scheme != "https" then
      throw (refused ("unsupported protocol scheme " ++ Text.quote u.scheme))
    if u.host.isEmpty then throw (refused "http: no Host in request URL")
    if cancelled then throw (refused canceledMessage)
    match transport u with
    | .error e => throw (refused e)
    | .ok r =>
      if r.status < 200 || r.status > 299 then throw (fail [.message r.statusLine])
      let ct := r.contentType.getD ""
      if !textual ct then throw (fail [.message ("non-text content type " ++ ct)])
      match r.body with
      | .ok text => pure text
      | .error e => throw (fail [.cause (.text e)])

end UpnpBind.Fetch
