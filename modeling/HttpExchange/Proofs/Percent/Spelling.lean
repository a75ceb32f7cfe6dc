import HttpExchange.Proofs.Percent.Data

/-! Spelling bytes in letters, digits and escapes. There is more than one way to do
it, since the digits of an escape may be of either case and letters may be escaped as
well. Each of them reads back as the same bytes, and writing with no marks left alone
is one of them. -/

namespace HttpExchange

namespace LiteralSet

/-- The letters and digits alone. -/
def alphanumeric : LiteralSet :=
  ⟨[]⟩

theorem contains_alphanumeric (c : Char) :
    alphanumeric.contains c = c.isAlphanum := by
  simp [contains, alphanumeric]

end LiteralSet

namespace Percent

/-- The text spells the bytes: a letter or digit stands for itself, and an escape with
digits of either case for the byte that they spell. -/
inductive Spells : Bytes → Text → Prop
  | nil : Spells [] []
  | literal {c : Char} {bytes : Bytes} {t : Text} (hc : c.isAlphanum = true)
      (h : Spells bytes t) : Spells (.ofNat c.toNat :: bytes) (c :: t)
  | escape {a b : Char} {byte : UInt8} {bytes : Bytes} {t : Text}
      (hbyte : Hex.byte? a b = some byte) (h : Spells bytes t) :
      Spells (byte :: bytes) ('%' :: a :: b :: t)

variable {bytes : Bytes} {t : Text}

/-- A spelling reads back as the bytes that it spells. -/
theorem Spells.decode_eq (h : Spells bytes t) : decode t = bytes := by
  induction h with
  | nil => rfl
  | @literal c _ _ hc _ ih =>
    have hrange := LiteralSet.toNat_of_isAlphanum hc
    have hsign : c ≠ '%' := by
      rintro rfl
      cases hc
    rw [decode_char hsign, ih, Utf8.encodeChar, if_pos (by omega)]
    rfl
  | escape hbyte _ ih => rw [decode_escape hbyte, ih]

theorem Spells.written (h : Spells bytes t) : Written .alphanumeric t := by
  induction h with
  | nil => exact .nil
  | literal hc _ ih =>
    exact .literal ((LiteralSet.contains_alphanumeric _).trans hc) ih
  | @escape a b byte _ _ hbyte _ ih =>
    have hdigits : (Hex.isDigit a && Hex.isDigit b) = true := by
      rw [← Hex.byte?_isSome, hbyte, Option.isSome_some]
    rw [Bool.and_eq_true] at hdigits
    exact .escape hdigits.1 hdigits.2 ih

/-- What is written of bytes with no marks left alone spells them. -/
theorem spells_writeBytes (bytes : Bytes) :
    Spells bytes (writeBytes .alphanumeric bytes) := by
  induction bytes with
  | nil => exact .nil
  | cons b rest ih =>
    rw [writeBytes, List.flatMap_cons, ← writeBytes, writeByte]
    split
    · next hlit =>
      rw [LiteralSet.contains_alphanumeric] at hlit
      have hliteral := Spells.literal hlit ih
      rwa [Utf8.toNat_ofNat_toNat, UInt8.ofNat_toNat] at hliteral
    · exact .escape (Hex.byte?_ofByte b) ih

end Percent

end HttpExchange
