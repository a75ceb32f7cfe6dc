import HttpExchange.Text.Basic

/-! Character sets. A charset turns text into the bytes that escapes carry and
bytes back into text. Both directions are total: a character that the charset
lacks is written as a decimal character reference, and bytes that it cannot
read become U+FFFD. Two laws single out the charsets that the query operations
can rely on. -/

namespace HttpExchange

/-- A named way to write text as bytes and to read bytes as text. No text is
written as no bytes, and no bytes are read as no text. -/
structure Charset where
  name : Text
  encode : Text → Bytes
  decode : Bytes → Text
  encode_nil : encode [] = [] := by rfl
  decode_nil : decode [] = [] := by rfl

/-- A character from the space to the tilde. -/
def Text.isPrintableAscii (c : Char) : Bool :=
  0x20 ≤ c.toNat && c.toNat ≤ 0x7E

namespace Charset

/-- Texts of printable ASCII are written as they are. -/
def KeepsAscii (cs : Charset) : Prop :=
  ∀ t : Text, t.all Text.isPrintableAscii = true →
    cs.encode t = Text.asciiBytes t

/-- What the charset writes for a text reads back as that text. -/
def Restores (cs : Charset) (t : Text) : Prop :=
  cs.decode (cs.encode t) = t

/-- The bytes `&#N;` that stand for a character the charset lacks, `N` being
its number in decimal. -/
def reference (c : Char) : Bytes :=
  Text.asciiBytes ("&#".toList ++ Text.ofNat c.toNat ++ [';'])

/-- Text written character by character, with a reference for each character
that has no bytes of its own. -/
def encodeEach (write? : Char → Option Bytes) (t : Text) : Bytes :=
  t.flatMap fun c => (write? c).getD (reference c)

end Charset

/-- A reader that goes over bytes one at a time with a state, yielding text on
the way and, for what is left unfinished, at the end. -/
structure ByteReader (σ : Type) where
  start : σ
  step : σ → UInt8 → Text × σ
  finish : σ → Text

namespace ByteReader

variable {σ : Type}

/-- The text that the bytes yield from a state on. -/
def runFrom (r : ByteReader σ) : σ → Bytes → Text
  | s, [] => r.finish s
  | s, b :: rest =>
    let (out, s') := r.step s b
    out ++ r.runFrom s' rest

/-- The text that the bytes yield. -/
def run (r : ByteReader σ) (bytes : Bytes) : Text :=
  r.runFrom r.start bytes

end ByteReader

end HttpExchange
