import HttpExchange.Text.Basic

/-! Binary floating-point numbers. A finite number is a significand times a
power of two, both exact integers; a format bounds the two. `nearest` gives the
number of a format that lies nearest to a fraction, of two equally near ones the
one with the even significand. -/

namespace HttpExchange.Decimal

/-- How many binary digits a significand has, and the least and the greatest
exponent. -/
structure BinaryFormat where
  precision : Nat
  minExponent : Int
  maxExponent : Int
  deriving DecidableEq, Repr

/-- Numbers in 32 bits. -/
def binary32 : BinaryFormat := ⟨24, -149, 104⟩

/-- Numbers in 64 bits. -/
def binary64 : BinaryFormat := ⟨53, -1074, 971⟩

/-- A floating-point number, `significand * 2 ^ exponent` if it is finite. -/
inductive Binary where
  | nan (negative : Bool)
  | infinite (negative : Bool)
  | finite (negative : Bool) (significand : Nat) (exponent : Int)
  deriving DecidableEq, Repr

/-- The quotient rounded to the nearest integer, a half to the even one. -/
def divRound (num den : Nat) : Nat :=
  let q := num / den
  let twice := 2 * (num % den)
  if twice < den then q
  else if den < twice then q + 1
  else q + q % 2

/-- The fraction `num / den` with `2 ^ e` divided out. -/
def scaleDown (num den : Nat) (e : Int) : Nat × Nat :=
  if e < 0 then (num * Nat.pow 2 e.natAbs, den)
  else (num, den * Nat.pow 2 e.natAbs)

/-- The greatest `e` such that `2 ^ e` is at most the positive fraction
`num / den`. -/
def floorLog2 (num den : Nat) : Int :=
  let e : Int := (Nat.log2 num : Int) - Nat.log2 den
  let (n, d) := scaleDown num den e
  if n < d then e - 1 else e

/-- The number of a format nearest to the fraction `num / den`. -/
def nearest (f : BinaryFormat) (negative : Bool) (num den : Nat) : Binary :=
  if num = 0 then .finite negative 0 f.minExponent
  else
    let e := max f.minExponent (floorLog2 num den - (f.precision - 1 : Nat))
    let (n, d) := scaleDown num den e
    let m := divRound n d
    let (m, e) := if m = Nat.pow 2 f.precision then (m / 2, e + 1) else (m, e)
    if f.maxExponent < e then .infinite negative else .finite negative m e

/-- The number as a word: the sign, the biased exponent and the significand
without its leading one, in a word of `width` bits. -/
def Binary.toWord (f : BinaryFormat) (width : Nat) : Binary → Nat
  | .nan negative =>
    sign negative
      + (Nat.pow 2 (width - f.precision) - 1) * Nat.pow 2 (f.precision - 1)
      + Nat.pow 2 (f.precision - 2)
  | .infinite negative =>
    sign negative
      + (Nat.pow 2 (width - f.precision) - 1) * Nat.pow 2 (f.precision - 1)
  | .finite negative m e =>
    if m < Nat.pow 2 (f.precision - 1) then sign negative + m
    else
      sign negative
        + (e - f.minExponent).natAbs * Nat.pow 2 (f.precision - 1) + m
where
  sign (negative : Bool) : Nat :=
    if negative then Nat.pow 2 (width - 1) else 0

end HttpExchange.Decimal
