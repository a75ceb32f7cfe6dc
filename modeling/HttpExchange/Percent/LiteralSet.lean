import HttpExchange.Percent.Hex

/-! Literal sets: which characters a component of a query may hold as they are.
Every other byte is written as an escape, `%` and two upper-case hexadecimal
digits. The sets for raw query text leave `+` alone, since it may stand for a
space; the sets for data escape it, so that it reads back as a plus sign
either way. Only in a value may `=` stand as itself. -/

namespace HttpExchange

/-- A set of bytes that stay as they are: the ASCII letters and digits, and some
marks. -/
structure LiteralSet where
  marks : List Char

namespace LiteralSet

/-- Whether the character stays as it is. -/
def contains (set : LiteralSet) (c : Char) : Bool :=
  c.isAlphanum || set.marks.contains c

/-- Names in raw query text. -/
def rawName : LiteralSet :=
  ⟨['-', '.', '_', '~', '!', '$', '\'', '(', ')', '*', '+', ',', ';', ':', '@',
    '/', '?']⟩

/-- Values in raw query text. -/
def rawValue : LiteralSet :=
  ⟨'=' :: rawName.marks⟩

/-- Names given as data. -/
def dataName : LiteralSet :=
  ⟨rawName.marks.erase '+'⟩

/-- Values given as data. -/
def dataValue : LiteralSet :=
  ⟨rawValue.marks.erase '+'⟩

end LiteralSet

namespace Percent

/-- The escape of a byte. -/
def escape (b : UInt8) : Text :=
  '%' :: Hex.ofByte b

/-- A byte as itself if the set leaves it alone, else its escape. -/
def writeByte (set : LiteralSet) (b : UInt8) : Text :=
  if set.contains (Char.ofNat b.toNat) then [Char.ofNat b.toNat] else escape b

/-- Bytes written one after another. -/
def writeBytes (set : LiteralSet) (bytes : Bytes) : Text :=
  bytes.flatMap (writeByte set)

end Percent

end HttpExchange
