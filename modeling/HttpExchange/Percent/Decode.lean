import HttpExchange.Percent.Hex
import HttpExchange.Text.Utf8

/-! Reading escapes. A `%` that two hexadecimal digits follow stands for the
byte they spell. Any other `%` stands for itself, and so does every other
character, by its UTF-8 bytes. -/

namespace HttpExchange.Percent

/-- What follows a `%`: the byte that the next two digits spell and the text
after them, or `none` when they spell none. -/
def escaped? : Text → Option (UInt8 × Text)
  | a :: b :: rest => (Hex.byte? a b).map fun byte => (byte, rest)
  | _ => none

/-- The bytes of a text with escapes. -/
def decode : Text → Bytes
  | [] => []
  | c :: rest =>
    if c = '%' then
      match rest with
      | a :: b :: tail =>
        match Hex.byte? a b with
        | some byte => byte :: decode tail
        | none => 0x25 :: decode (a :: b :: tail)
      | other => 0x25 :: decode other
    else Utf8.encodeChar c ++ decode rest

/-- The text from the first `%` that no two hexadecimal digits follow. -/
def brokenEscape? : Text → Option Text
  | [] => none
  | c :: rest =>
    if c = '%' ∧ (escaped? rest).isNone then some (c :: rest)
    else brokenEscape? rest

end HttpExchange.Percent
