import UpnpBind.Text.Ranges

/-!
# Blank characters

The characters with the Unicode White_Space property, and trimming them from
both ends of a text.
-/

namespace UpnpBind.Text

/-- Characters with the White_Space property. -/
def blankRanges : Ranges := #[
  (0x9, 0xD), (0x20, 0x20), (0x85, 0x85), (0xA0, 0xA0), (0x1680, 0x1680), (0x2000, 0x200A),
  (0x2028, 0x2029), (0x202F, 0x202F), (0x205F, 0x205F), (0x3000, 0x3000)]

/-- Blank characters: the White_Space property. -/
def isBlank (c : Char) : Bool := blankRanges.contains c.toNat

/-- Drops the blank characters at both ends of a character list. -/
def trimBlankList (cs : List Char) : List Char :=
  ((cs.dropWhile isBlank).reverse.dropWhile isBlank).reverse

/-- Drops the blank characters at both ends of a text. -/
def trimBlank (s : String) : String := String.ofList (trimBlankList s.toList)

end UpnpBind.Text
