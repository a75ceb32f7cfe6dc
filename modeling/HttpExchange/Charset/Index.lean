import HttpExchange.Text.Basic

/-! Numbered character sets. A multi-byte charset writes the number that a
character has in such a set. The sets here are partial: each is an excerpt of a
few characters out of the thousands that the standard numbers. A character that
the excerpt leaves out is taken for one that the charset lacks, and its number
for one without a character. No law of the charsets rests on what is listed. -/

namespace HttpExchange.Charset

/-- Characters with their numbers. -/
abbrev Index := List (Nat × Char)

namespace Index

/-- The character with a number. -/
def char? (x : Index) (n : Nat) : Option Char :=
  x.lookup n

/-- The number of a character. -/
def number? (x : Index) (c : Char) : Option Nat :=
  (x.find? fun entry => entry.2 = c).map Prod.fst

/-- An excerpt of the two-byte part of GB 18030, in rows of 190. -/
def gb18030 : Index :=
  [(6432, '€'), (7511, 'é'), (9245, '本'), (13628, '人'), (13638, '日'),
   (13678, '三'), (14761, '文'), (16092, '张'), (16293, '中')]

/-- An excerpt of Big5, in rows of 157. -/
def big5 : Index :=
  [(5503, '人'), (5515, '三'), (5561, '中'), (5626, '文'), (5630, '日'),
   (5741, '本')]

/-- An excerpt of JIS X 0208, in rows of 94. -/
def jis0208 : Index :=
  [(2459, '三'), (2864, '人'), (3265, '中'), (3569, '日'), (3877, '文'),
   (4007, '本')]

/-- JIS X 0212, in rows of 94, with all its characters left out. -/
def jis0212 : Index :=
  []

/-- An excerpt of KS X 1001 with its extension, in rows of 190. -/
def euckr : Index :=
  [(12112, '일'), (16909, '文'), (17451, '本'), (17973, '三'), (20474, '人'),
   (20502, '日'), (21448, '中')]

end Index

/-- A run of characters that have consecutive numbers in the four-byte part of
GB 18030. -/
structure FourByteRun where
  number : Nat
  codePoint : Nat
  size : Nat
  deriving DecidableEq, Repr

/-- Two of the runs of the four-byte part: the first characters after ASCII, and
all the characters from U+10000 on. The runs between them are left out. -/
def fourByteRuns : List FourByteRun :=
  [⟨0, 0x80, 36⟩, ⟨189000, 0x10000, 0x100000⟩]

/-- The character with a number in the four-byte part. -/
def fourByteChar? (n : Nat) : Option Char :=
  (fourByteRuns.find? fun r => r.number ≤ n && n < r.number + r.size).map
    fun r => Char.ofNat (r.codePoint + (n - r.number))

/-- The number of a character in the four-byte part. -/
def fourByteNumber? (c : Char) : Option Nat :=
  (fourByteRuns.find? fun r =>
    r.codePoint ≤ c.toNat && c.toNat < r.codePoint + r.size).map
    fun r => r.number + (c.toNat - r.codePoint)

end HttpExchange.Charset
