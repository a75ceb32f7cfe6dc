import HttpExchange.Text.Basic

/-! Hexadecimal digits. They are read in either case and written in upper
case. -/

namespace HttpExchange.Hex

/-- The value of a digit. -/
def value? (c : Char) : Option Nat :=
  let n := c.toNat
  if 0x30 ≤ n ∧ n ≤ 0x39 then some (n - 0x30)
  else if 0x41 ≤ n ∧ n ≤ 0x46 then some (n - 0x41 + 10)
  else if 0x61 ≤ n ∧ n ≤ 0x66 then some (n - 0x61 + 10)
  else none

/-- Whether the character is a digit. -/
def isDigit (c : Char) : Bool :=
  (value? c).isSome

/-- The digit of a value below sixteen. -/
def digit (n : Nat) : Char :=
  if n < 10 then Char.ofNat (0x30 + n) else Char.ofNat (0x41 + (n - 10))

/-- The byte that two digits spell. -/
def byte? (a b : Char) : Option UInt8 :=
  match value? a, value? b with
  | some high, some low => some (.ofNat (high * 16 + low))
  | _, _ => none

/-- The two digits of a byte. -/
def ofByte (b : UInt8) : Text :=
  [digit (b.toNat / 16), digit (b.toNat % 16)]

theorem value?_digit {n : Nat} (h : n < 16) : value? (digit n) = some n := by
  have all : ∀ n ∈ List.range 16, value? (digit n) = some n := by decide
  exact all n (List.mem_range.mpr h)

theorem isDigit_digit {n : Nat} (h : n < 16) : isDigit (digit n) = true := by
  rw [isDigit, value?_digit h]
  rfl

/-- Digits lie between `0` and `f`. -/
theorem toNat_of_isDigit {c : Char} (h : isDigit c = true) :
    0x30 ≤ c.toNat ∧ c.toNat ≤ 0x66 := by
  simp only [isDigit, value?] at h
  split at h
  · omega
  · split at h
    · omega
    · split at h
      · omega
      · simp at h

/-- Digits are ASCII. -/
theorem toNat_lt_of_isDigit {c : Char} (h : isDigit c = true) :
    c.toNat < 0x80 := by
  have := toNat_of_isDigit h
  omega

theorem ne_percent_of_isDigit {c : Char} (h : isDigit c = true) : c ≠ '%' := by
  rintro rfl
  cases h

/-- The two digits of a byte spell it. -/
theorem byte?_ofByte (b : UInt8) :
    byte? (digit (b.toNat / 16)) (digit (b.toNat % 16)) = some b := by
  have hb := b.toNat_lt
  rw [byte?, value?_digit (by omega), value?_digit (by omega)]
  simp only [Option.some.injEq]
  rw [show b.toNat / 16 * 16 + b.toNat % 16 = b.toNat by omega,
    UInt8.ofNat_toNat]

/-- Two characters spell a byte exactly when both are digits. -/
theorem byte?_isSome (a b : Char) :
    (byte? a b).isSome = (isDigit a && isDigit b) := by
  simp only [byte?, isDigit]
  cases value? a <;> cases value? b <;> rfl

end HttpExchange.Hex
