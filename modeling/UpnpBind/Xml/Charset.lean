import UpnpBind.Text.Utf8

/-!
# Declared character sets

A document may declare that what follows its declaration is in another
character set. Only the bytes after the declaration are decoded again: UTF-8
under any of its labels stays as it is, the UTF-16 labels read byte pairs
(little-endian unless the label says big-endian), and the Latin-1 labels read
each byte as one character of windows-1252. Labels are compared without case
and surrounding blanks; an unknown label is unsupported.
-/

namespace UpnpBind.Xml

open UpnpBind.Text

/-- The character sets a declaration can switch to. -/
inductive Charset where
  | utf8
  | utf16 (bigEndian : Bool)
  | latin1
deriving Repr, DecidableEq

/-- The charset of a label, if it is supported. -/
def Charset.ofLabel? (label : String) : Option Charset :=
  let l := String.ofList ((label.toList.dropWhile (· == ' ')).reverse.dropWhile (· == ' ')).reverse
  let l := String.ofList (l.toList.map Char.toLower)
  if ["utf-8", "utf8", "unicode-1-1-utf-8", "unicode11utf8", "unicode20utf8", "x-unicode20utf8"].contains l then
    some .utf8
  else if ["utf-16", "utf-16le", "ucs-2", "unicode", "csunicode", "iso-10646-ucs-2"].contains l then
    some (.utf16 false)
  else if ["utf-16be", "unicodefffe"].contains l then some (.utf16 true)
  else if ["iso-8859-1", "iso8859-1", "iso_8859-1", "iso88591", "latin1", "l1", "ascii", "us-ascii",
      "windows-1252", "cp1252", "x-cp1252", "cp819", "ibm819", "csisolatin1", "iso-ir-100",
      "iso_8859-1:1987", "ansi_x3.4-1968"].contains l then some .latin1
  else none

/-- The characters windows-1252 gives to the bytes 0x80 to 0x9F. -/
def cp1252High : List Nat :=
  [0x20AC, 0x81, 0x201A, 0x0192, 0x201E, 0x2026, 0x2020, 0x2021, 0x02C6, 0x2030, 0x0160,
   0x2039, 0x0152, 0x8D, 0x017D, 0x8F, 0x90, 0x2018, 0x2019, 0x201C, 0x201D, 0x2022, 0x2013,
   0x2014, 0x02DC, 0x2122, 0x0161, 0x203A, 0x0153, 0x9D, 0x017E, 0x0178]

/-- A byte read as windows-1252. -/
def latin1Char (b : UInt8) : Char :=
  if 0x80 ≤ b.toNat && b.toNat < 0xA0 then Char.ofNat (cp1252High.getD (b.toNat - 0x80) b.toNat)
  else Char.ofNat b.toNat

/-- Reads 16-bit units as UTF-16: a surrogate pair is one character, a lone
surrogate the replacement character. -/
def decodeUnits : List Nat → List Char
  | [] => []
  | u :: us =>
    if 0xD800 ≤ u && u < 0xDC00 then
      match us with
      | v :: vs =>
        if 0xDC00 ≤ v && v < 0xE000 then
          Char.ofNat (0x10000 + (u - 0xD800) * 0x400 + (v - 0xDC00)) :: decodeUnits vs
        else replacementChar :: decodeUnits (v :: vs)
      | [] => [replacementChar]
    else if 0xDC00 ≤ u && u < 0xE000 then replacementChar :: decodeUnits us
    else Char.ofNat u :: decodeUnits us

/-- Pairs bytes into 16-bit units; an odd last byte is dropped and reported. -/
def pairUnits (bigEndian : Bool) : List UInt8 → List Nat × Bool
  | a :: b :: rest =>
    let u := if bigEndian then a.toNat * 256 + b.toNat else b.toNat * 256 + a.toNat
    let (us, odd) := pairUnits bigEndian rest
    (u :: us, odd)
  | [_] => ([], true)
  | [] => ([], false)

/-- Decodes the characters after a declaration, read back as bytes, in a charset. -/
def Charset.decode : Charset → List Char → List Char
  | .utf8, cs => cs
  | .utf16 be, cs =>
    let (us, odd) := pairUnits be (utf8Bytes cs)
    decodeUnits us ++ (if odd then [replacementChar] else [])
  | .latin1, cs => (utf8Bytes cs).map latin1Char

end UpnpBind.Xml
