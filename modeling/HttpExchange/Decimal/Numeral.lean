import HttpExchange.Text.Basic

/-! Integers in decimal digits. A numeral is an optional sign and one digit or
more; a minus sign is read only where negative numbers are in range. Reading
goes from left to right and stops at the first character that is wrong, be it
no digit or the digit that leaves the range. -/

namespace HttpExchange.Decimal

/-- The value of a decimal digit. -/
def digit? (c : Char) : Option Nat :=
  if '0' ≤ c ∧ c ≤ '9' then some (c.toNat - 0x30) else none

/-- Why a text is not an integer in range. -/
inductive IntegerError where
  | empty
  | invalidDigit
  | tooLarge
  | tooSmall
  deriving DecidableEq, Repr

/-- The integers from `low` to `high`. -/
structure Range where
  low : Int
  high : Int
  deriving DecidableEq, Repr

namespace Range

/-- The numbers of `bits` bits, without sign. -/
def unsigned (bits : Nat) : Range := ⟨0, Nat.pow 2 bits - 1⟩

/-- The numbers of `bits` bits, one of them the sign. -/
def signed (bits : Nat) : Range :=
  ⟨-Nat.pow 2 (bits - 1), Nat.pow 2 (bits - 1) - 1⟩

end Range

/-- Reads further digits of a number that is `negative` or not, `n` being the
value of the digits so far. -/
def readDigits (r : Range) (negative : Bool) :
    Int → Text → Except IntegerError Int
  | n, [] => .ok n
  | n, c :: rest =>
    match digit? c with
    | none => .error .invalidDigit
    | some d =>
      let next := if negative then n * 10 - d else n * 10 + d
      if next < r.low then .error .tooSmall
      else if r.high < next then .error .tooLarge
      else readDigits r negative next rest

/-- The integer that a text spells. A sign alone is no number. -/
def readInteger (r : Range) (t : Text) : Except IntegerError Int :=
  match t with
  | [] => .error .empty
  | ['+'] => .error .invalidDigit
  | ['-'] => .error .invalidDigit
  | '+' :: digits => readDigits r false 0 digits
  | '-' :: digits =>
    if r.low < 0 then readDigits r true 0 digits else .error .invalidDigit
  | digits => readDigits r false 0 digits

/-- The digits of an integer, after a minus sign if it is negative. -/
def writeInteger (n : Int) : Text :=
  if n < 0 then '-' :: Text.ofNat n.natAbs else Text.ofNat n.natAbs

end HttpExchange.Decimal
