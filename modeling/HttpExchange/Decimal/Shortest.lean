import HttpExchange.Decimal.Binary

/-! The shortest decimal digits of a floating-point number: the fewest digits
whose value reads back as the number, and of those the value nearest to it. A
value reads back when it lies between the midpoints to the neighbouring
numbers, the midpoints included where the significand is even. -/

namespace HttpExchange.Decimal

/-- Decimal digits and the power of ten that they are multiplied with. -/
structure Digits where
  value : Nat
  exponent : Int
  deriving DecidableEq, Repr

/-- A number and the midpoints to its neighbours, as numerators over one
denominator, and whether the midpoints read back as the number. -/
structure Rounding where
  low : Nat
  exact : Nat
  high : Nat
  den : Nat
  inclusive : Bool
  deriving DecidableEq, Repr

/-- What reads back as `m * 2 ^ e`. Below a power of two the numbers lie twice
as dense. -/
def Rounding.of (f : BinaryFormat) (m : Nat) (e : Int) : Rounding :=
  let below :=
    if m = Nat.pow 2 (f.precision - 1) ∧ f.minExponent < e then 1 else 2
  let unit := if e < 0 then 1 else Nat.pow 2 e.natAbs
  let den := if e < 0 then 4 * Nat.pow 2 e.natAbs else 4
  ⟨(4 * m - below) * unit, 4 * m * unit, (4 * m + 2) * unit, den, m % 2 = 0⟩

/-- Whether the value `num / den` reads back. -/
def Rounding.holds (r : Rounding) (num den : Nat) : Bool :=
  let low := r.low * den
  let x := num * r.den
  let high := r.high * den
  if r.inclusive then low ≤ x && x ≤ high else low < x && x < high

/-- The nearest multiple of `10 ^ k` that reads back, if one of the two around
the number does; of two equally near ones the even. -/
def Rounding.grid? (r : Rounding) (k : Int) : Option Nat :=
  let up := if k < 0 then 1 else Nat.pow 10 k.natAbs
  let down := if k < 0 then Nat.pow 10 k.natAbs else 1
  let floor := r.exact * down / (r.den * up)
  let left := r.exact * down - floor * (r.den * up)
  let right := (floor + 1) * (r.den * up) - r.exact * down
  match r.holds (floor * up) down, r.holds ((floor + 1) * up) down with
  | true, true =>
    some (if left < right then floor
      else if right < left then floor + 1
      else floor + floor % 2)
  | true, false => some floor
  | false, true => some (floor + 1)
  | false, false => none

/-- The first grid from `10 ^ k` downwards, over at most `fuel` grids, that has
a multiple that reads back. -/
def Rounding.search (r : Rounding) : Nat → Int → Digits
  | 0, k => ⟨r.exact / r.den, k⟩
  | fuel + 1, k =>
    match r.grid? k with
    | some n => ⟨n, k⟩
    | none => r.search fuel (k - 1)

/-- The digits without zeros at their end. -/
def Digits.trim : Nat → Digits → Digits
  | 0, d => d
  | fuel + 1, d =>
    if d.value ≠ 0 ∧ d.value % 10 = 0 then
      trim fuel ⟨d.value / 10, d.exponent + 1⟩
    else d

/-- The shortest digits of the positive number `m * 2 ^ e`. The search starts
above the number and needs at most as many grids as a format has digits. -/
def shortest (f : BinaryFormat) (m : Nat) (e : Int) : Digits :=
  let top := (Nat.log2 m + e) * 30103 / 100000 + 2
  ((Rounding.of f m e).search (f.precision + 4) top).trim 400

end HttpExchange.Decimal
