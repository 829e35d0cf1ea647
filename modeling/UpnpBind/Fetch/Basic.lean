import UpnpBind.Log
import UpnpBind.Disk

/-!
# Fetching documents

A fetcher gives the text of the document at a URL, or an error. Documents
come from a live device, from a directory snapshot of one, or from memory;
the latter two look documents up by the path part of the URL. Every fetcher
first refuses to work under a cancelled request. A fetcher may log what it
does.
-/

namespace UpnpBind.Fetch

/-- A source of documents: the text at a URL, or why there is none. -/
abbrev Fetcher := String → Logged String

/-- The message of a cancelled request. -/
def canceledMessage : String := "context canceled"

/-- The failure of fetching `url` because the request was cancelled. -/
def canceled (url : String) : Error :=
  .failure (Failure.raise .fetch url [.cause (.text canceledMessage)])

/-- The index of the first occurrence of a pattern in a character list. -/
def findList (pat : List Char) : List Char → Option Nat
  | [] => if pat.isEmpty then some 0 else none
  | c :: cs =>
    if pat.isPrefixOf (c :: cs) then some 0 else (findList pat cs).map (· + 1)

/-- The path part of a URL: what follows the host, from the first slash after
"://", or "/" when there is none. A text without "://" is a path itself. -/
def path (url : String) : String :=
  let cs := url.toList
  match findList ['\x3a', '/', '/'] cs with
  | none => url
  | some i =>
    let rest := cs.drop (i + 3)
    match rest.findIdx? (· == '/') with
    | none => "/"
    | some j => String.ofList (rest.drop j)

/-- Documents held in memory, by full URL or by URL path. -/
def fromMemory (docs : List (String × String)) (cancelled : Bool) : Fetcher := fun url =>
  if cancelled then throw (canceled url)
  else
    match docs.lookup url with
    | some text => pure text
    | none =>
      match docs.lookup (path url) with
      | some text => pure text
      | none => throw (.failure (Failure.raise .fetch url [.message "not found"]))

/-- The file of a directory snapshot read for a URL: the URL's path joined to
the directory and cleaned. -/
def snapshotFile (dir url : String) : String := Text.joinPath [dir, path url]

/-- Documents of a directory snapshot of a device, by URL path below the directory. -/
def fromDisk (disk : Disk) (dir : String) (cancelled : Bool) : Fetcher := fun url =>
  if cancelled then throw (canceled url)
  else
    let file := snapshotFile dir url
    match disk.readFile file with
    | .ok text => pure text
    | .error e => throw (.failure (Failure.raise .fetch url [.path file, .cause (.text e)]))

end UpnpBind.Fetch
