import HttpExchange.Charset.Index
import HttpExchange.Charset.LeadByte

/-! The Korean charset EUC-KR: pairs of bytes in rows of 190, over the excerpt in
`Index`. -/

namespace HttpExchange.Charset

/-- The character of two bytes of EUC-KR. -/
def euckrPair? (first b : UInt8) : Option Text :=
  if 0x41 ≤ b.toNat ∧ b.toNat ≤ 0xFE then
    (Index.euckr.char? ((first.toNat - 0x81) * 190 + (b.toNat - 0x41))).map
      fun c => [c]
  else none

def euckr : Charset where
  name := "EUC-KR".toList
  encode := encodeEach fun c =>
    if c.toNat < 0x80 then some [.ofNat c.toNat]
    else (Index.euckr.number? c).map fun n =>
      [.ofNat (n / 190 + 0x81), .ofNat (n % 190 + 0x41)]
  decode := (pairReader asciiChar? isLeadByte euckrPair?).run

end HttpExchange.Charset
