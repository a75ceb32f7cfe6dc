import HttpExchange.Body.Source
import HttpExchange.Decimal.Numeral
import HttpExchange.Text.Blank
import HttpExchange.Text.Utf8

/-! Headers of a response. A header name is a token, and case makes no
difference in it; a header value is made of bytes other than controls, the tab
excepted. A value is read as text only if it is visible ASCII with spaces and
tabs. -/

namespace HttpExchange

/-- A character of a token. -/
def Text.isTokenChar (c : Char) : Bool :=
  c.isAlphanum ||
    ['!', '#', '$', '%', '&', '\'', '*', '+', '-', '.', '^', '_', '\x60', '|',
      '~'].contains c

/-- A header: its name in lower case, and the bytes of its value. -/
structure Header where
  name : Text
  value : Bytes
  deriving DecidableEq, Repr

/-- Why a name and a value make no header. -/
inductive HeaderError where
  | invalidName
  | invalidValue
  deriving DecidableEq, Repr

/-- The wording of an error. -/
def HeaderError.message : HeaderError → Text
  | invalidName => "invalid HTTP header name".toList
  | invalidValue => "failed to parse header value".toList

namespace Header

/-- Whether the byte may stand in a value. -/
def isValueByte (b : UInt8) : Bool :=
  (32 ≤ b.toNat && b.toNat ≠ 127) || b.toNat = 9

/-- The header with a name and a value. -/
def make (name : Text) (value : Bytes) : Except HeaderError Header :=
  if name.isEmpty || !name.all Text.isTokenChar then .error .invalidName
  else if !value.all isValueByte then .error .invalidValue
  else .ok ⟨Text.lowerAscii name, value⟩

/-- The value as text; `none` if it holds more than visible ASCII, spaces and
tabs. -/
def text? (h : Header) : Option Text :=
  if h.value.all fun b => (32 ≤ b.toNat && b.toNat < 127) || b.toNat = 9 then
    some (h.value.map fun b => Char.ofNat b.toNat)
  else none

end Header

/-- A response whose headers have been read and whose body has not. -/
structure Response where
  headers : List Header
  body : Source

namespace Response

/-- The text of the first header with a name, given in lower case. -/
def header? (r : Response) (name : Text) : Option Text :=
  (r.headers.find? fun h => h.name = name).bind Header.text?

/-- The declared length of the body: a number below 2 ^ 64, a plus sign in front
allowed. -/
def contentLength? (r : Response) : Option Nat :=
  match r.header? "content-length".toList with
  | some value =>
    match Decimal.readInteger (.unsigned 64) (Text.trim value) with
    | .ok n => some n.toNat
    | .error _ => none
  | none => none

/-- The type of the content, as it was sent. -/
def contentType? (r : Response) : Option Text :=
  r.header? "content-type".toList

end Response

end HttpExchange
