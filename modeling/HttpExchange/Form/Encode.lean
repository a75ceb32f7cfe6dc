import HttpExchange.Form.Value
import HttpExchange.Percent.LiteralSet

/-! Writing forms: `name=value` pairs joined by `&`, in UTF-8. Letters, digits
and four marks stand as they are, a space is written as `+`, and every other
byte as an escape. -/

namespace HttpExchange.Form

/-- The bytes that stand as themselves. -/
def literals : LiteralSet :=
  ⟨['*', '-', '.', '_']⟩

/-- One byte of a name or value. -/
def writeByte (b : UInt8) : Text :=
  if b = 0x20 then ['+'] else Percent.writeByte literals b

/-- A name or value. -/
def writeText (t : Text) : Text :=
  (Utf8.encode t).flatMap writeByte

/-- A pair. -/
def writePair (pair : Text × Text) : Text :=
  writeText pair.1 ++ '=' :: writeText pair.2

/-- Pairs, in order. -/
def writePairs (pairs : List (Text × Text)) : Text :=
  Text.join '&' (pairs.map writePair)

/-- A value as a form. -/
def encode (v : Value) : Except EncodeError Text :=
  v.pairs.map writePairs

end HttpExchange.Form
