import UpnpBind.Naming.Normalize
import UpnpBind.Text.Utf8

/-!
# Normalizing byte strings

A raw identifier is a byte string, and nothing makes it well-formed UTF-8; nor
are the rule tables. Normalizing works on bytes: a non-empty pattern is found
byte by byte and replaced from left to right, and an empty one stands before
every character read and at the end. The separators '_' and '-' are dropped
byte by byte. Case splitting reads the bytes as characters, a byte that starts
no well-formed sequence as U+FFFD, and tests for the start of the text by the
byte offset of each character, which is 0 for the first character only, as
every character takes at least one byte. It writes each character it keeps in
UTF-8 and '_' as one byte, and drops trailing '_' bytes.

On the UTF-8 form of a text, each stage does to the bytes what it does to the
characters, so the normal form of the bytes is the UTF-8 form of the text's
normal form.
-/

namespace UpnpBind.Naming

open UpnpBind.Text

/-- A rewrite rule over byte strings. -/
structure ByteRule where
  pattern : List UInt8
  replacement : List UInt8
deriving Repr, DecidableEq

/-- A rule whose texts are taken as their UTF-8 bytes. -/
def Rule.bytes (r : Rule) : ByteRule := ⟨utf8Bytes r.pattern.toList, utf8Bytes r.replacement.toList⟩

/-- The two rule tables of a normalizer, over byte strings. -/
structure ByteNormalizer where
  vendor : List ByteRule
  acronyms : List ByteRule
deriving Repr, DecidableEq

/-- A normalizer whose rules are taken as their UTF-8 bytes. -/
def Normalizer.bytes (n : Normalizer) : ByteNormalizer := ⟨n.vendor.map Rule.bytes, n.acronyms.map Rule.bytes⟩

/-- Replaces every occurrence of `pat` in a byte string by `rep`, from left to
right. An empty pattern puts `rep` before every character read and at the end. -/
def replaceBytes (s pat rep : List UInt8) : List UInt8 :=
  if h : pat = [] then rep ++ (runes s).flatMap (·.2 ++ rep)
  else replaceNonEmpty pat rep h s

/-- Applies the rules of a table one after another, each to the whole byte string. -/
def applyByteRules (rules : List ByteRule) (s : List UInt8) : List UInt8 :=
  rules.foldl (fun acc r => replaceBytes acc r.pattern r.replacement) s

/-- The bytes of the separators '_' and '-'. -/
def separatorBytes : List UInt8 := [0x5F, 0x2D]

/-- Case splitting over the characters a byte string is read as, each character
kept written in UTF-8; trailing '_' bytes are dropped. -/
def splitCaseBytes (s : List UInt8) : List UInt8 :=
  trimRightList (utf8Bytes (splitCaseFrom true (Char.ofNat 0) (decodeRunes s))) 0x5F

/-- The normal form of a raw byte string under a normalizer. -/
def ByteNormalizer.normalize (n : ByteNormalizer) (raw : List UInt8) : List UInt8 :=
  splitCaseBytes (applyByteRules n.acronyms (dropAll (applyByteRules n.vendor raw) separatorBytes))

end UpnpBind.Naming
