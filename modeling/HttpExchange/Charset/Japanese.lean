import HttpExchange.Charset.Index
import HttpExchange.Charset.LeadByte

/-! The Japanese charsets. EUC-JP and Shift_JIS tell the sets of characters
apart by the lead byte; ISO-2022-JP switches between them by escape sequences
and starts and ends in ASCII. Of the sets there are the excerpts in `Index`. -/

namespace HttpExchange.Charset

/-- A katakana letter of half width from its byte, which lies from A1 to DF. -/
def halfKatakana (b : UInt8) : Char :=
  Char.ofNat (0xFF61 + (b.toNat - 0xA1))

/-- A character from U+FF61 to U+FF9F. -/
def isHalfKatakana (c : Char) : Bool :=
  0xFF61 ≤ c.toNat && c.toNat ≤ 0xFF9F

/-- The number of a character in JIS X 0208, where the minus sign counts as the
one of full width. -/
def jisNumber? (c : Char) : Option Nat :=
  Index.jis0208.number? (if c.toNat = 0x2212 then Char.ofNat 0xFF0D else c)

/-! ## EUC-JP -/

namespace EucJp

/-- The bytes of a character under way: none, a lead byte, or the byte 8F with
the lead byte after it. -/
inductive State where
  | idle
  | lead (first : UInt8)
  | third (first : UInt8)
  deriving DecidableEq, Repr

/-- A byte from A1 to FE. -/
def isRow (b : UInt8) : Bool :=
  0xA1 ≤ b.toNat && b.toNat ≤ 0xFE

/-- The character of two bytes in a set. -/
def pair? (set : Index) (first b : UInt8) : Option Char :=
  if isRow first && isRow b then
    set.char? ((first.toNat - 0xA1) * 94 + (b.toNat - 0xA1))
  else none

def settle (found : Option Char) (b : UInt8) : Text × State :=
  match found with
  | some c => ([c], .idle)
  | none => (brokenPair b, .idle)

def step (s : State) (b : UInt8) : Text × State :=
  match s with
  | .idle =>
    if isAsciiByte b then ([Char.ofNat b.toNat], .idle)
    else if b.toNat = 0x8E ∨ b.toNat = 0x8F ∨ isRow b = true then ([], .lead b)
    else ([Utf8.replacement], .idle)
  | .lead first =>
    if first.toNat = 0x8E ∧ 0xA1 ≤ b.toNat ∧ b.toNat ≤ 0xDF then
      ([halfKatakana b], .idle)
    else if first.toNat = 0x8F ∧ isRow b = true then ([], .third b)
    else settle (pair? Index.jis0208 first b) b
  | .third first => settle (pair? Index.jis0212 first b) b

def reader : ByteReader State where
  start := .idle
  step := step
  finish s := if s = .idle then [] else [Utf8.replacement]

end EucJp

def eucjp : Charset where
  name := "EUC-JP".toList
  encode := encodeEach fun c =>
    if c.toNat < 0x80 then some [.ofNat c.toNat]
    else if c = '\u00A5' then some [0x5C]
    else if c = '\u203E' then some [0x7E]
    else if isHalfKatakana c then
      some [0x8E, .ofNat (c.toNat - 0xFF61 + 0xA1)]
    else (jisNumber? c).map fun n =>
      [.ofNat (n / 94 + 0xA1), .ofNat (n % 94 + 0xA1)]
  decode := EucJp.reader.run

/-! ## Shift_JIS -/

namespace ShiftJis

/-- A byte that two-byte characters begin with. -/
def isLead (b : UInt8) : Bool :=
  (0x81 ≤ b.toNat && b.toNat ≤ 0x9F) || (0xE0 ≤ b.toNat && b.toNat ≤ 0xFC)

/-- The character of two bytes. The numbers from 8836 to 10715 are the private
use area. -/
def pair? (first b : UInt8) : Option Text :=
  let offset := if b.toNat < 0x7F then 0x40 else 0x41
  let leadOffset := if first.toNat < 0xA0 then 0x81 else 0xC1
  if (0x40 ≤ b.toNat ∧ b.toNat ≤ 0x7E) ∨ (0x80 ≤ b.toNat ∧ b.toNat ≤ 0xFC) then
    let n := (first.toNat - leadOffset) * 188 + (b.toNat - offset)
    if 8836 ≤ n ∧ n ≤ 10715 then some [Char.ofNat (0xE000 + (n - 8836))]
    else (Index.jis0208.char? n).map fun c => [c]
  else none

/-- The character of a single byte. -/
def single? (b : UInt8) : Option Char :=
  if b.toNat ≤ 0x80 then some (Char.ofNat b.toNat)
  else if 0xA1 ≤ b.toNat ∧ b.toNat ≤ 0xDF then some (halfKatakana b)
  else none

end ShiftJis

def shiftjis : Charset where
  name := "Shift_JIS".toList
  encode := encodeEach fun c =>
    if c.toNat ≤ 0x80 then some [.ofNat c.toNat]
    else if c = '\u00A5' then some [0x5C]
    else if c = '\u203E' then some [0x7E]
    else if isHalfKatakana c then some [.ofNat (c.toNat - 0xFF61 + 0xA1)]
    else (jisNumber? c).map fun n =>
      let lead := n / 188
      let trail := n % 188
      [.ofNat (lead + if lead < 0x1F then 0x81 else 0xC1),
       .ofNat (trail + if trail < 0x3F then 0x40 else 0x41)]
  decode := (pairReader ShiftJis.single? ShiftJis.isLead ShiftJis.pair?).run

/-! ## ISO-2022-JP -/

namespace Iso2022Jp

/-- The set that bytes are read in. -/
inductive Mode where
  | ascii
  | roman
  | katakana
  | jis0208
  deriving DecidableEq, Repr

/-- How far a character or an escape sequence has been read. -/
inductive Phase where
  | idle
  | trail (lead : UInt8)
  | escape
  | escapeSet (first : UInt8)
  deriving DecidableEq, Repr

/-- The set in force, what is under way, and whether the last thing read was an
escape sequence. -/
structure State where
  mode : Mode
  phase : Phase
  justSwitched : Bool
  deriving DecidableEq, Repr

/-- A byte from 21 to 7E. -/
def isGraphic (b : UInt8) : Bool :=
  0x21 ≤ b.toNat && b.toNat ≤ 0x7E

/-- The character of a single byte in a set of single bytes. -/
def single? (mode : Mode) (b : UInt8) : Option Char :=
  match mode with
  | .katakana =>
    if 0x21 ≤ b.toNat ∧ b.toNat ≤ 0x5F then
      some (Char.ofNat (0xFF61 + (b.toNat - 0x21)))
    else none
  | .jis0208 => none
  | _ =>
    if b.toNat ≥ 0x80 ∨ b.toNat = 0x0E ∨ b.toNat = 0x0F then none
    else if mode = .roman ∧ b.toNat = 0x5C then some '\u00A5'
    else if mode = .roman ∧ b.toNat = 0x7E then some '\u203E'
    else some (Char.ofNat b.toNat)

/-- A byte outside an escape sequence. -/
def stepText (s : State) (b : UInt8) : Text × State :=
  match s.phase with
  | .trail lead =>
    if b.toNat = 0x1B then
      ([Utf8.replacement], { s with phase := .escape })
    else if isGraphic b then
      let n := (lead.toNat - 0x21) * 94 + (b.toNat - 0x21)
      ([(Index.jis0208.char? n).getD Utf8.replacement],
        { s with phase := .idle })
    else ([Utf8.replacement], { s with phase := .idle })
  | _ =>
    if b.toNat = 0x1B then ([], { s with phase := .escape })
    else if s.mode = .jis0208 ∧ isGraphic b = true then
      ([], ⟨s.mode, .trail b, false⟩)
    else
      ([(single? s.mode b).getD Utf8.replacement], ⟨s.mode, .idle, false⟩)

/-- The set that an escape sequence switches to. -/
def set? (first b : UInt8) : Option Mode :=
  match first.toNat, b.toNat with
  | 0x28, 0x42 => some .ascii
  | 0x28, 0x4A => some .roman
  | 0x28, 0x49 => some .katakana
  | 0x24, 0x40 => some .jis0208
  | 0x24, 0x42 => some .jis0208
  | _, _ => none

/-- One byte. An escape sequence that switches to no set reads as U+FFFD, and
its bytes after the first are read afresh. A switch right after another leaves
the first without use and reads as U+FFFD as well. -/
def step (s : State) (b : UInt8) : Text × State :=
  match s.phase with
  | .escape =>
    if b.toNat = 0x24 ∨ b.toNat = 0x28 then
      ([], { s with phase := .escapeSet b })
    else
      let (out, s') := stepText ⟨s.mode, .idle, false⟩ b
      (Utf8.replacement :: out, s')
  | .escapeSet first =>
    match set? first b with
    | some mode =>
      (if s.justSwitched then [Utf8.replacement] else [], ⟨mode, .idle, true⟩)
    | none =>
      let (out, s') := stepText ⟨s.mode, .idle, false⟩ first
      let (more, s'') := stepText s' b
      (Utf8.replacement :: (out ++ more), s'')
  | _ => stepText s b

/-- What is left unfinished: half a character or an escape sequence reads as
U+FFFD, a byte after the escape as itself. -/
def finish (s : State) : Text :=
  match s.phase with
  | .idle => []
  | .trail _ => [Utf8.replacement]
  | .escape => [Utf8.replacement]
  | .escapeSet first =>
    let (out, s') := stepText ⟨s.mode, .idle, false⟩ first
    Utf8.replacement :: (out ++ if s'.phase = .idle then [] else [Utf8.replacement])

def reader : ByteReader State where
  start := ⟨.ascii, .idle, false⟩
  step := step
  finish := finish

/-- The escape sequence that switches to a set. -/
def switchTo : Mode → Bytes
  | .ascii => [0x1B, 0x28, 0x42]
  | .roman => [0x1B, 0x28, 0x4A]
  | .katakana => [0x1B, 0x28, 0x49]
  | .jis0208 => [0x1B, 0x24, 0x42]

/-- The set that a character is written in, given the set in force, and its
bytes there; `none` when no set has it. A control that would be taken for a
switch has no bytes. -/
def place? (mode : Mode) (c : Char) : Option (Mode × Bytes) :=
  if c.toNat = 0x0E ∨ c.toNat = 0x0F ∨ c.toNat = 0x1B then none
  else if c.toNat < 0x80 then
    if mode = .roman ∧ c ≠ '\\' ∧ c ≠ '~' then
      some (.roman, [.ofNat c.toNat])
    else some (.ascii, [.ofNat c.toNat])
  else if c = '\u00A5' then some (.roman, [0x5C])
  else if c = '\u203E' then some (.roman, [0x7E])
  else (jisNumber? c).map fun n =>
    (.jis0208, [.ofNat (n / 94 + 0x21), .ofNat (n % 94 + 0x21)])

/-- The bytes of a character that no set has: the reference to it, written in
ASCII unless the Roman set is in force. -/
def placeReference (mode : Mode) (c : Char) : Mode × Bytes :=
  let written :=
    if c.toNat < 0x80 then reference Utf8.replacement else reference c
  (if mode = .roman then .roman else .ascii, written)

/-- The bytes of a text from a set on, switching back to ASCII at the end. -/
def encodeFrom : Mode → Text → Bytes
  | mode, [] => if mode = .ascii then [] else switchTo .ascii
  | mode, c :: rest =>
    let (mode', written) := (place? mode c).getD (placeReference mode c)
    (if mode' = mode then [] else switchTo mode') ++ written
      ++ encodeFrom mode' rest

end Iso2022Jp

def iso2022jp : Charset where
  name := "ISO-2022-JP".toList
  encode := Iso2022Jp.encodeFrom .ascii
  decode := Iso2022Jp.reader.run

end HttpExchange.Charset
