import HttpExchange.Decimal.Binary
import HttpExchange.Decimal.Numeral

/-! Floating-point literals: a sign, then digits with at most one point among
them and at least one digit, then an exponent; or `inf`, `infinity` or `nan` in
any case. -/

namespace HttpExchange.Decimal

/-- Why a text is no floating-point literal. -/
inductive FloatError where
  | empty
  | invalid
  deriving DecidableEq, Repr

/-- The longest run of digits at the front: the digits and the rest. -/
def takeDigits (t : Text) : List Nat × Text :=
  ((t.takeWhile Char.isDigit).filterMap digit?, t.dropWhile Char.isDigit)

/-- The number that digits spell. -/
def ofDigits (digits : List Nat) : Nat :=
  digits.foldl (fun n d => n * 10 + d) 0

/-- An exponent: nothing at all, or `e`, a sign and digits. -/
def exponent? : Text → Option Int
  | [] => some 0
  | c :: rest =>
    if c = 'e' ∨ c = 'E' then
      let (negative, rest) :=
        match rest with
        | '-' :: more => (true, more)
        | '+' :: more => (false, more)
        | other => (false, other)
      match takeDigits rest with
      | ([], _) => none
      | (digits, []) =>
        some (if negative then -(ofDigits digits : Int) else ofDigits digits)
      | _ => none
    else none

/-- Digits, a point and an exponent, as the whole number that the digits spell
and the power of ten that it is to be multiplied with. -/
def positional? (t : Text) : Option (List Nat × Int) :=
  let (whole, rest) := takeDigits t
  let (part, rest) :=
    match rest with
    | '.' :: more => takeDigits more
    | other => ([], other)
  if whole.isEmpty && part.isEmpty then none
  else (exponent? rest).map fun e => (whole ++ part, e - part.length)

/-- The number of a format nearest to `digits` times a power of ten. Numbers
with more than 400 places on either side of the point are beyond every format
and are not multiplied out. -/
def ofPower (f : BinaryFormat) (negative : Bool) (digits : List Nat) (e : Int) :
    Binary :=
  let n := ofDigits digits
  let places := e + (digits.dropWhile (· = 0)).length
  if n = 0 then nearest f negative 0 1
  else if 400 < places then .infinite negative
  else if places < -400 then nearest f negative 0 1
  else if e < 0 then nearest f negative n (Nat.pow 10 e.natAbs)
  else nearest f negative (n * Nat.pow 10 e.natAbs) 1

/-- The number that a literal spells, in a format. -/
def readFloat (f : BinaryFormat) (t : Text) : Except FloatError Binary :=
  if t.isEmpty then .error .empty
  else
    let (negative, body) :=
      match t with
      | '-' :: rest => (true, rest)
      | '+' :: rest => (false, rest)
      | other => (false, other)
    match positional? body with
    | some (digits, e) => .ok (ofPower f negative digits e)
    | none =>
      let word := Text.lowerAscii body
      if word = ['i', 'n', 'f'] ∨ word = "infinity".toList then
        .ok (.infinite negative)
      else if word = ['n', 'a', 'n'] then .ok (.nan negative)
      else .error .invalid

end HttpExchange.Decimal
