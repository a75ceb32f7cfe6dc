import HttpExchange.Charset.Index
import HttpExchange.Charset.LeadByte

/-! The Chinese charsets: GBK and gb18030, which read the same bytes but write
different ones, and Big5, all over the excerpts in `Index`. -/

namespace HttpExchange.Charset

/-! ## GBK and gb18030 -/

/-- The bytes of a character under way: none, or one to three of them. -/
inductive GbState where
  | idle
  | one (first : UInt8)
  | two (first second : UInt8)
  | three (first second third : UInt8)
  deriving DecidableEq, Repr

namespace GbState

/-- A byte from 30 to 39, as the second and fourth of four bytes are. -/
def isDigit (b : UInt8) : Bool :=
  0x30 ≤ b.toNat && b.toNat ≤ 0x39

/-- A byte between characters. -/
def begin (b : UInt8) : Text × GbState :=
  if isAsciiByte b then ([Char.ofNat b.toNat], idle)
  else if b.toNat = 0x80 then (['€'], idle)
  else if isLeadByte b then ([], one b)
  else ([Utf8.replacement], idle)

/-- The character of two bytes. -/
def pair? (first b : UInt8) : Option Char :=
  let offset := if b.toNat < 0x7F then 0x40 else 0x41
  if (0x40 ≤ b.toNat ∧ b.toNat ≤ 0x7E) ∨ (0x80 ≤ b.toNat ∧ b.toNat ≤ 0xFE) then
    Index.gb18030.char? ((first.toNat - 0x81) * 190 + (b.toNat - offset))
  else none

/-- The byte after a lead byte. -/
def afterOne (first b : UInt8) : Text × GbState :=
  if isDigit b then ([], two first b)
  else match pair? first b with
    | some c => ([c], idle)
    | none => (brokenPair b, idle)

/-- The character of four bytes. -/
def quadruple? (first second third b : UInt8) : Option Char :=
  fourByteChar? ((first.toNat - 0x81) * 12600 + (second.toNat - 0x30) * 1260
    + (third.toNat - 0x81) * 10 + (b.toNat - 0x30))

/-- One byte. Where four bytes fail, the first of them reads as U+FFFD and the
others are read afresh. -/
def step (s : GbState) (b : UInt8) : Text × GbState :=
  match s with
  | idle => begin b
  | one first => afterOne first b
  | two first second =>
    if isLeadByte b then ([], three first second b)
    else
      let (out, s') := begin b
      (Utf8.replacement :: Char.ofNat second.toNat :: out, s')
  | three first second third =>
    match if isDigit b then quadruple? first second third b else none with
    | some c => ([c], idle)
    | none =>
      let (out, s') := afterOne third b
      (Utf8.replacement :: Char.ofNat second.toNat :: out, s')

end GbState

/-- Reads GBK and gb18030. -/
def gbReader : ByteReader GbState where
  start := .idle
  step := GbState.step
  finish s := if s = .idle then [] else [Utf8.replacement]

/-- The two bytes of a number in rows of 190. -/
def gbPair (n : Nat) : Bytes :=
  let trail := n % 190
  [.ofNat (n / 190 + 0x81),
   .ofNat (trail + if trail < 0x3F then 0x40 else 0x41)]

def gbk : Charset where
  name := "GBK".toList
  encode := encodeEach fun c =>
    if c.toNat < 0x80 then some [.ofNat c.toNat]
    else if c = '€' then some [0x80]
    else (Index.gb18030.number? c).map gbPair
  decode := gbReader.run

def gb18030 : Charset where
  name := "gb18030".toList
  encode := encodeEach fun c =>
    if c.toNat < 0x80 then some [.ofNat c.toNat]
    else match Index.gb18030.number? c with
      | some n => some (gbPair n)
      | none => (fourByteNumber? c).map fun n =>
        [.ofNat (n / 12600 + 0x81), .ofNat (n / 1260 % 10 + 0x30),
         .ofNat (n / 10 % 126 + 0x81), .ofNat (n % 10 + 0x30)]
  decode := gbReader.run

/-! ## Big5 -/

namespace Big5

/-- The characters of a number. Four numbers stand for a letter with a
combining mark. -/
def text? (n : Nat) : Option Text :=
  if n = 1133 then some ['\u00CA', '\u0304']
  else if n = 1135 then some ['\u00CA', '\u030C']
  else if n = 1164 then some ['\u00EA', '\u0304']
  else if n = 1166 then some ['\u00EA', '\u030C']
  else (Index.big5.char? n).map fun c => [c]

/-- The characters of two bytes. -/
def pair? (first b : UInt8) : Option Text :=
  let offset := if b.toNat < 0x7F then 0x40 else 0x62
  if (0x40 ≤ b.toNat ∧ b.toNat ≤ 0x7E) ∨ (0xA1 ≤ b.toNat ∧ b.toNat ≤ 0xFE) then
    text? ((first.toNat - 0x81) * 157 + (b.toNat - offset))
  else none

end Big5

def big5 : Charset where
  name := "Big5".toList
  encode := encodeEach fun c =>
    if c.toNat < 0x80 then some [.ofNat c.toNat]
    else (Index.big5.number? c).map fun n =>
      let trail := n % 157
      [.ofNat (n / 157 + 0x81),
       .ofNat (trail + if trail < 0x3F then 0x40 else 0x62)]
  decode := (pairReader asciiChar? isLeadByte Big5.pair?).run

end HttpExchange.Charset
