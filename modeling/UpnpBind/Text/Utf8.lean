/-!
# Reading byte strings as UTF-8

Texts are byte strings, read from the front one character at a time. A
well-formed UTF-8 sequence is read as the character it encodes; a byte that
starts no well-formed sequence, or whose sequence is broken or cut short, is
read alone as the replacement character U+FFFD. So every byte string reads as
some text: the pieces it is read in (`runes`) make it up again, and each piece
is one byte or the UTF-8 form of its character.
-/

namespace UpnpBind.Text

/-- The character that stands for bytes that encode no character. -/
def replacementChar : Char := Char.ofNat 0xFFFD

/-- The UTF-8 bytes of a character list: each character's bytes in turn. -/
def utf8Bytes (cs : List Char) : List UInt8 := cs.flatMap String.utf8EncodeChar

/-- The character at a byte offset and the number of bytes it takes. -/
def runeAt (src : ByteArray) (i : Nat) : Char × Nat :=
  match src.utf8DecodeChar? i with
  | some c => (c, c.utf8Size)
  | none => (replacementChar, 1)

theorem runeAt_width_pos (src : ByteArray) (i : Nat) : 0 < (runeAt src i).2 := by
  unfold runeAt
  split
  · exact Char.utf8Size_pos _
  · exact Nat.one_pos

/-- A byte string cut into the pieces it is read in, each with the character it
is read as. -/
def runes : List UInt8 → List (Char × List UInt8)
  | [] => []
  | b :: rest =>
    let r := runeAt (b :: rest).toByteArray 0
    (r.1, (b :: rest).take r.2) :: runes ((b :: rest).drop r.2)
termination_by bs => bs.length
decreasing_by
  have := runeAt_width_pos (b :: rest).toByteArray 0
  simp only [List.length_drop, List.length_cons]
  omega

/-- The characters a byte string is read as. -/
def decodeRunes (bs : List UInt8) : List Char := (runes bs).map (·.1)

end UpnpBind.Text
