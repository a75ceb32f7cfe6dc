import HttpExchange.Text.Basic
import HttpExchange.Text.Quoted.Ranges

/-! Quoted text, as error messages show it: between double quotes, with a
backslash before a quote or a backslash, the short escapes for NUL, tab, line
feed and carriage return, and the number in braces for any other character that
has no visible form of its own. -/

namespace HttpExchange.Text

/-- Whether a character has a visible form of its own. -/
def isVisible (c : Char) : Bool :=
  !(invisibleRanges.any fun (low, high) => low ≤ c.toNat && c.toNat ≤ high)

/-- A number in lower-case hexadecimal digits. -/
def hexadecimal (n : Nat) : Text :=
  Nat.toDigits 16 n

/-- One character inside the quotes. -/
def quoteChar (c : Char) : Text :=
  if c = '\x00' then ['\\', '0']
  else if c = '\t' then ['\\', 't']
  else if c = '\n' then ['\\', 'n']
  else if c = '\r' then ['\\', 'r']
  else if c = '"' ∨ c = '\\' then ['\\', c]
  else if isVisible c then [c]
  else ['\\', 'u', '\x7b'] ++ hexadecimal c.toNat ++ ['\x7d']

/-- The text between double quotes. -/
def quote (t : Text) : Text :=
  '"' :: (t.flatMap quoteChar ++ ['"'])

/-- The text between grave accents, as names are shown. -/
def tick (t : Text) : Text :=
  '\x60' :: (t ++ ['\x60'])

end HttpExchange.Text
