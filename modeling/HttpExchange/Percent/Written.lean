import HttpExchange.Percent.LiteralSet
import HttpExchange.Text.Utf8

/-! Components that are written out. `Written` says which texts those are, by a
grammar: literal characters and escapes, in any order. The functions below it
write a component in UTF-8 one character at a time, without cutting it into
runs first. -/

namespace HttpExchange.Percent

/-- A text of characters of a set and of escapes with digits of either case. -/
inductive Written (set : LiteralSet) : Text → Prop where
  | nil : Written set []
  | literal {c : Char} {t : Text} (hc : set.contains c = true)
      (ht : Written set t) : Written set (c :: t)
  | escape {a b : Char} {t : Text} (ha : Hex.isDigit a = true)
      (hb : Hex.isDigit b = true) (ht : Written set t) :
      Written set ('%' :: a :: b :: t)

/-- Written texts one after the other are a written text. -/
theorem Written.append {set : LiteralSet} {s t : Text} (hs : Written set s)
    (ht : Written set t) : Written set (s ++ t) := by
  induction hs with
  | nil => exact ht
  | literal hc _ ih => exact .literal hc ih
  | escape ha hb _ ih => exact .escape ha hb ih

/-- One character of data: itself if the set has it, else the escapes of its
bytes. -/
def writeChar (set : LiteralSet) (c : Char) : Text :=
  if set.contains c then [c] else (Utf8.encodeChar c).flatMap escape

/-- Data, one character at a time. -/
def writeChars (set : LiteralSet) (t : Text) : Text :=
  t.flatMap (writeChar set)

/-- Raw text, one character at a time: an escape stays as it is, any other `%`
is escaped. -/
def writeRawChars (set : LiteralSet) : Text → Text
  | [] => []
  | c :: rest =>
    if c = '%' then
      match rest with
      | a :: b :: tail =>
        if Hex.isDigit a && Hex.isDigit b then
          '%' :: a :: b :: writeRawChars set tail
        else '%' :: '2' :: '5' :: writeRawChars set (a :: b :: tail)
      | other => '%' :: '2' :: '5' :: writeRawChars set other
    else writeChar set c ++ writeRawChars set rest

end HttpExchange.Percent
