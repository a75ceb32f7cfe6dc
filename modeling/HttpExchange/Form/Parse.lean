import HttpExchange.Percent.Hex
import HttpExchange.Text.Utf8

/-! Reading forms, on bytes as the web does it: the bytes are cut at `&`, empty
pieces are passed over, each piece is cut at its first `=`, `+` is a space,
escapes are replaced by their bytes, broken escapes stay, and what results is
read as UTF-8. No form fails to read. -/

namespace HttpExchange.Form

/-- The pieces between the `&` bytes. -/
def pieces : Bytes → List Bytes
  | [] => [[]]
  | b :: rest =>
    if b = 0x26 then [] :: pieces rest
    else match pieces rest with
      | [] => [[b]]
      | piece :: others => (b :: piece) :: others

/-- The bytes before and after the first `=`; all of them and none, when there
is no `=`. -/
def nameAndValue : Bytes → Bytes × Bytes
  | [] => ([], [])
  | b :: rest =>
    if b = 0x3D then ([], rest)
    else
      let (name, value) := nameAndValue rest
      (b :: name, value)

/-- The byte that two bytes spell as hexadecimal digits. -/
def escapedByte? (a b : UInt8) : Option UInt8 :=
  Hex.byte? (Char.ofNat a.toNat) (Char.ofNat b.toNat)

/-- The bytes with every escape replaced. -/
def unescape : Bytes → Bytes
  | [] => []
  | c :: rest =>
    if c = 0x25 then
      match rest with
      | a :: b :: tail =>
        match escapedByte? a b with
        | some byte => byte :: unescape tail
        | none => c :: unescape (a :: b :: tail)
      | other => c :: unescape other
    else c :: unescape rest

/-- The text of a name or value. -/
def readText (bytes : Bytes) : Text :=
  Utf8.decode (unescape (bytes.map fun b => if b = 0x2B then 0x20 else b))

/-- The pairs of a form, in order. -/
def parse (raw : Text) : List (Text × Text) :=
  ((pieces (Utf8.encode raw)).filter fun piece => !piece.isEmpty).map
    fun piece =>
      let (name, value) := nameAndValue piece
      (readText name, readText value)

end HttpExchange.Form
