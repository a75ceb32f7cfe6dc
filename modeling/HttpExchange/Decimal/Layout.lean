import HttpExchange.Decimal.Shortest

/-! The written form of floating-point numbers. Near one they are written
positionally, with at least one digit on each side of the point; further away
one digit stands before the point and an exponent follows. Where the positional
form ends depends on the format. -/

namespace HttpExchange.Decimal

/-- The decimals written in a format: numbers whose point lies more than
`afterPoint` places before the first digit, or more than `beforePoint` places
after it, are written with an exponent. -/
structure FloatLayout where
  format : BinaryFormat
  afterPoint : Int
  beforePoint : Int

/-- Numbers in 32 bits are positional from 0.000001 to 10^13. -/
def FloatLayout.float32 : FloatLayout := ⟨binary32, 5, 13⟩

/-- Numbers in 64 bits are positional from 0.00001 to 10^16. -/
def FloatLayout.float64 : FloatLayout := ⟨binary64, 4, 16⟩

/-- The digits of a positive number laid out. -/
def FloatLayout.write (l : FloatLayout) (d : Digits) : Text :=
  let digits := Text.ofNat d.value
  let point : Int := digits.length + d.exponent
  if 0 ≤ d.exponent ∧ point ≤ l.beforePoint then
    digits ++ List.replicate d.exponent.natAbs '0' ++ ['.', '0']
  else if 0 < point ∧ point ≤ l.beforePoint then
    digits.take point.natAbs ++ '.' :: digits.drop point.natAbs
  else if -l.afterPoint ≤ point ∧ point ≤ 0 then
    '0' :: '.' :: (List.replicate point.natAbs '0' ++ digits)
  else
    digits.take 1 ++ (if digits.length = 1 then [] else '.' :: digits.drop 1)
      ++ 'e' :: (if point ≤ 0 then ['-'] else [])
      ++ Text.ofNat (point - 1).natAbs

/-- The written form of a number. -/
def writeFloat (l : FloatLayout) : Binary → Text
  | .nan _ => ['N', 'a', 'N']
  | .infinite negative => (if negative then ['-'] else []) ++ ['i', 'n', 'f']
  | .finite negative m e =>
    (if negative then ['-'] else []) ++
      if m = 0 then ['0', '.', '0'] else l.write (shortest l.format m e)

end HttpExchange.Decimal
