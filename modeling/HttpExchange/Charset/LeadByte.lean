import HttpExchange.Charset.Basic
import HttpExchange.Text.Utf8

/-! Charsets that write some characters in two bytes, the first of which, the
lead byte, tells that a second follows. A lead byte without a second byte it can
have reads as U+FFFD, and if the byte after it is ASCII that byte is read
afresh. -/

namespace HttpExchange.Charset

/-- A byte that is ASCII. -/
def isAsciiByte (b : UInt8) : Bool :=
  b.toNat < 0x80

/-- A byte from 81 to FE, the usual lead bytes. -/
def isLeadByte (b : UInt8) : Bool :=
  0x81 ≤ b.toNat && b.toNat ≤ 0xFE

/-- What a pair of bytes without a character reads as: U+FFFD, and the second
byte as well if it is ASCII. -/
def brokenPair (b : UInt8) : Text :=
  if isAsciiByte b then [Utf8.replacement, Char.ofNat b.toNat]
  else [Utf8.replacement]

/-- Reads single bytes by `single?`, and lead bytes together with the byte after
them by `pair?`. The state is a lead byte that waits for its second. -/
def pairReader (single? : UInt8 → Option Char) (isLead : UInt8 → Bool)
    (pair? : UInt8 → UInt8 → Option Text) : ByteReader (Option UInt8) where
  start := none
  step s b :=
    match s with
    | none =>
      match single? b with
      | some c => ([c], none)
      | none => if isLead b then ([], some b) else ([Utf8.replacement], none)
    | some first =>
      match pair? first b with
      | some t => (t, none)
      | none => (brokenPair b, none)
  finish s := if s.isSome then [Utf8.replacement] else []

/-- The character of an ASCII byte. -/
def asciiChar? (b : UInt8) : Option Char :=
  if isAsciiByte b then some (Char.ofNat b.toNat) else none

end HttpExchange.Charset
