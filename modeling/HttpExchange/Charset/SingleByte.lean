import HttpExchange.Charset.Basic
import HttpExchange.Text.Utf8

/-! Charsets with one byte to a character. The lower half of the bytes is ASCII
and the upper half is given by a row of 128 characters, in which U+FFFD marks a
byte that has no character. -/

namespace HttpExchange

/-- A charset given by the characters of the bytes from 80 to FF. -/
structure SingleByte where
  name : Text
  upper : Text

namespace SingleByte

/-- The byte of a character. No byte is written for U+FFFD, which only marks
gaps. -/
def byte? (s : SingleByte) (c : Char) : Option UInt8 :=
  if c.toNat < 0x80 then some (.ofNat c.toNat)
  else if c = Utf8.replacement then none
  else (s.upper.idxOf? c).map fun i => .ofNat (0x80 + i)

/-- The character of a byte. -/
def char (s : SingleByte) (b : UInt8) : Char :=
  if b.toNat < 0x80 then Char.ofNat b.toNat
  else s.upper.getD (b.toNat - 0x80) Utf8.replacement

/-- The charset that a row of characters describes. -/
def toCharset (s : SingleByte) : Charset where
  name := s.name
  encode := Charset.encodeEach fun c => (s.byte? c).map fun b => [b]
  decode := List.map s.char

end SingleByte

end HttpExchange
