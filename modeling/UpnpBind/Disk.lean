import UpnpBind.Text.SlashPath

/-!
# Files on disk

The files a run reads and writes, as a tree of directories and files with
their texts, each known by its clean path. The working directory `.` and the
root `/` always exist.

A path is resolved one element at a time, the way the operating system does
it: an element that names a file where a directory is needed fails with "not
a directory", a missing one with "no such file or directory", and `..` steps
back one directory (nothing is known above the working directory). Failures
read as the system's: the operation, the path as it was given, and why.

Creating a directory with its parents works as the usual library routine
does: if the path names a directory there is nothing to do, if it names a
file that is an error for that path; otherwise the parents are created first,
from the path with its last element cut, and then the directory itself.
-/

namespace UpnpBind

/-- What a path names. -/
inductive EntryKind where
  | directory
  | file
deriving Repr, DecidableEq, Inhabited

/-- A tree of directories and files, by clean path. -/
structure Disk where
  dirs : List String := []
  files : List (String × String) := []
deriving Repr, DecidableEq, Inhabited

/-- Where resolving a path ends: at a place, which may hold nothing, or at a
missing directory or a file in the way. -/
inductive Resolved where
  | at (key : String)
  | noEntry
  | notDirectory
deriving Repr, DecidableEq, Inhabited

namespace Disk

/-- What is at a clean path. -/
def kindAt (d : Disk) (key : String) : Option EntryKind :=
  if key == "." || key == "/" || d.dirs.contains key then some .directory
  else if (d.files.lookup key).isSome then some .file
  else none

/-- The clean path of an entry of a directory. -/
def childKey (dir name : String) : String :=
  if dir == "." then name else if dir == "/" then "/" ++ name else dir ++ "/" ++ name

/-- The clean path of a directory's parent; none above the working directory. -/
def parentKey (dir : String) : Option String :=
  if dir == "/" then some "/"
  else if dir == "." then none
  else
    match (Text.split dir '/').dropLast with
    | [] => some "."
    | [""] => some "/"
    | parts => some ("/".intercalate parts)

/-- Steps from a directory to one of its entries. -/
def step (dir e : String) : Option String :=
  if e == "." then some dir else if e == ".." then parentKey dir else some (childKey dir e)

/-- Follows the elements of a path from a directory. -/
def walkFrom (d : Disk) (dir : String) : List String → Resolved
  | [] => .at dir
  | [e] =>
    match step dir e with
    | some k => .at k
    | none => .noEntry
  | e :: rest =>
    match step dir e with
    | none => .noEntry
    | some k =>
      match d.kindAt k with
      | some .directory => d.walkFrom k rest
      | some .file => .notDirectory
      | none => .noEntry

/-- Resolves a path. A path that ends in a slash must name a directory. -/
def resolve (d : Disk) (p : String) : Resolved :=
  if p.isEmpty then .noEntry
  else
    let elements := (Text.split p '/').filter (!·.isEmpty)
    match d.walkFrom (if p.startsWith "/" then "/" else ".") elements with
    | .at k =>
      if p.endsWith "/" && d.kindAt k == some .file then .notDirectory else .at k
    | r => r

/-- What a path names, if anything. -/
def stat (d : Disk) (p : String) : Option EntryKind :=
  match d.resolve p with
  | .at k => d.kindAt k
  | _ => none

/-- A system failure: the operation, the path, and why. -/
def failure (op p why : String) : String := op ++ " " ++ p ++ ": " ++ why

/-- The text of a file. -/
def readFile (d : Disk) (p : String) : Except String String :=
  match d.resolve p with
  | .noEntry => .error (failure "open" p "no such file or directory")
  | .notDirectory => .error (failure "open" p "not a directory")
  | .at k =>
    match d.files.lookup k with
    | some text => .ok text
    | none =>
      if d.kindAt k == some .directory then .error (failure "read" p "is a directory")
      else .error (failure "open" p "no such file or directory")

/-- Whether reading failed because the file does not exist. -/
def isMissing (d : Disk) (p : String) : Bool :=
  match d.resolve p with
  | .noEntry => true
  | .notDirectory => false
  | .at k => d.kindAt k == none

/-- Creates one directory, whose parent must exist. -/
def mkdir (d : Disk) (p : String) : Except String Disk :=
  match d.resolve p with
  | .noEntry => .error (failure "mkdir" p "no such file or directory")
  | .notDirectory => .error (failure "mkdir" p "not a directory")
  | .at k =>
    if (d.kindAt k).isSome then .error (failure "mkdir" p "file exists")
    else .ok { d with dirs := d.dirs ++ [k] }

/-- A path with its last element and the slashes before it cut. -/
def parentText (p : String) : String :=
  let cs := p.toList.reverse.dropWhile (· == '/')
  let cs := cs.dropWhile (· != '/')
  String.ofList (cs.drop 1).reverse

/-- Creates a directory and its missing parents. -/
def mkdirAll (d : Disk) (p : String) : Except String Disk :=
  go (p.length + 1) d p
where
  go : Nat → Disk → String → Except String Disk
    | 0, d, p => d.mkdir p
    | fuel + 1, d, p =>
      match d.stat p with
      | some .directory => .ok d
      | some .file => .error (failure "mkdir" p "not a directory")
      | none =>
        let parent := parentText p
        let d' := if parent.isEmpty then .ok d else go fuel d parent
        match d' with
        | .error e => .error e
        | .ok d' =>
          match d'.mkdir p with
          | .ok d'' => .ok d''
          | .error e => if d'.stat p == some .directory then .ok d' else .error e

/-- Writes a file, replacing what it held; its directory must exist. -/
def writeFile (d : Disk) (p text : String) : Except String Disk :=
  match d.resolve p with
  | .noEntry => .error (failure "open" p "no such file or directory")
  | .notDirectory => .error (failure "open" p "not a directory")
  | .at k =>
    if d.kindAt k == some .directory then .error (failure "open" p "is a directory")
    else if (d.files.lookup k).isSome then
      .ok { d with files := d.files.map fun (q, t) => if q == k then (q, text) else (q, t) }
    else .ok { d with files := d.files ++ [(k, text)] }

/-- The directory part of a path, cleaned: everything up to the last slash,
or "." when there is none. -/
def dirName (p : String) : String :=
  let cs := p.toList.reverse.dropWhile (· != '/')
  Text.cleanPath (String.ofList cs.reverse)

/-- The disk with a directory and its parents created where they can be. -/
def putDirectory (d : Disk) (p : String) : Disk :=
  match d.mkdirAll p with
  | .ok d => d
  | .error _ => d

/-- The disk with a file written, and the directories it needs, where they can be. -/
def putFile (d : Disk) (p text : String) : Disk :=
  let d := d.putDirectory (dirName p)
  match d.writeFile p text with
  | .ok d => d
  | .error _ => d

/-- A disk holding files at the given paths, with the directories they need. -/
def ofFiles (files : List (String × String)) : Disk :=
  files.foldl (fun d (p, text) => d.putFile p text) {}

end Disk

end UpnpBind
