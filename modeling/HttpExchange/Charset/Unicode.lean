import HttpExchange.Charset.Basic
import HttpExchange.Text.Utf8

/-! Charsets that reach all of Unicode, and two that stand apart. UTF-16 is only
ever read: text for it is written in UTF-8, and so it is for `replacement`,
which reads any bytes at all as a single U+FFFD. `x-user-defined` keeps the
upper half of the bytes in the private use area. -/

namespace HttpExchange.Charset

def utf8 : Charset where
  name := "UTF-8".toList
  encode := Utf8.encode
  decode := Utf8.decode

/-- UTF-8 gives every text back. -/
theorem utf8_restores (t : Text) : utf8.Restores t :=
  Utf8.decode_encode t

/-! ## UTF-16 -/

/-- What has been read of a character: the first byte of a unit, and a leading
surrogate that waits for its other half. -/
structure Utf16State where
  byte : Option Nat
  surrogate : Option Nat
  deriving DecidableEq, Repr

/-- A unit that no leading surrogate waits for. -/
def Utf16State.unit (u : Nat) : Text × Utf16State :=
  if 0xD800 ≤ u ∧ u < 0xDC00 then ([], ⟨none, some u⟩)
  else if 0xDC00 ≤ u ∧ u < 0xE000 then ([Utf8.replacement], ⟨none, none⟩)
  else ([Char.ofNat u], ⟨none, none⟩)

/-- A unit after whatever waits. A leading surrogate without its other half
reads as U+FFFD, and the unit after it is read afresh. -/
def Utf16State.next (waiting : Option Nat) (u : Nat) : Text × Utf16State :=
  match waiting with
  | none => unit u
  | some high =>
    if 0xDC00 ≤ u ∧ u < 0xE000 then
      ([Char.ofNat (0x10000 + (high - 0xD800) * 0x400 + (u - 0xDC00))],
        ⟨none, none⟩)
    else
      let (out, s) := unit u
      (Utf8.replacement :: out, s)

/-- Reads UTF-16 whose units are put together from two bytes by `pair`. -/
def utf16Reader (pair : Nat → Nat → Nat) : ByteReader Utf16State where
  start := ⟨none, none⟩
  step s b :=
    match s.byte with
    | none => ([], ⟨some b.toNat, s.surrogate⟩)
    | some first => Utf16State.next s.surrogate (pair first b.toNat)
  finish s :=
    if s.byte.isSome || s.surrogate.isSome then [Utf8.replacement] else []

def utf16le : Charset where
  name := "UTF-16LE".toList
  encode := Utf8.encode
  decode := (utf16Reader fun first second => second * 256 + first).run

def utf16be : Charset where
  name := "UTF-16BE".toList
  encode := Utf8.encode
  decode := (utf16Reader fun first second => first * 256 + second).run

/-! ## The two that stand apart -/

def replacement : Charset where
  name := "replacement".toList
  encode := Utf8.encode
  decode bytes := if bytes.isEmpty then [] else [Utf8.replacement]

def userDefined : Charset where
  name := "x-user-defined".toList
  encode := encodeEach fun c =>
    if c.toNat < 0x80 then some [.ofNat c.toNat]
    else if 0xF780 ≤ c.toNat ∧ c.toNat ≤ 0xF7FF then
      some [.ofNat (c.toNat - 0xF700)]
    else none
  decode := List.map fun b =>
    if b.toNat < 0x80 then Char.ofNat b.toNat else Char.ofNat (0xF700 + b.toNat)

end HttpExchange.Charset
