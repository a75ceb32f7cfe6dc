import HttpExchange.Proofs.Percent.Meaning

/-! Data reads back. The sets for data are ASCII and leave out both `%` and `+`,
so nothing that stands literally in written data begins an escape or could be
taken for a space. Whatever bytes a charset writes for a text, then, are the
bytes that are read. Apart from the plus sign these sets are those for raw text,
so written data is also a written component of raw text. -/

namespace HttpExchange

namespace LiteralSet

/-- A set whose characters stand for themselves wherever they are read: ASCII
characters other than the percent and the plus sign. -/
structure IsPlain (set : LiteralSet) : Prop where
  ascii : set.IsAscii
  percent : set.contains '%' = false
  plus : set.contains '+' = false

theorem isPlain_dataName : dataName.IsPlain where
  ascii := isAscii_of_marks rfl
  percent := rfl
  plus := rfl

theorem isPlain_dataValue : dataValue.IsPlain where
  ascii := isAscii_of_marks rfl
  percent := rfl
  plus := rfl

/-- A set with more marks has more characters. -/
theorem contains_mono {set larger : LiteralSet} (h : set.marks ⊆ larger.marks)
    {c : Char} (hc : set.contains c = true) : larger.contains c = true := by
  rw [contains, Bool.or_eq_true, List.contains_iff_mem] at hc ⊢
  exact hc.imp_right fun hmem => h hmem

theorem contains_of_erase {set : LiteralSet} {mark c : Char}
    (h : (⟨set.marks.erase mark⟩ : LiteralSet).contains c = true) :
    set.contains c = true :=
  contains_mono List.erase_subset h

end LiteralSet

namespace Percent

variable {set : LiteralSet} {plus : Bool}

/-- What is written with a set is written with every larger one. -/
theorem Written.mono {larger : LiteralSet} {t : Text} (h : Written set t)
    (hsub : ∀ c, set.contains c = true → larger.contains c = true) :
    Written larger t := by
  induction h with
  | nil => exact .nil
  | literal hc _ ih => exact .literal (hsub _ hc) ih
  | escape ha hb _ ih => exact .escape ha hb ih

theorem written_dataName (cs : Charset) (t : Text) :
    Written .rawName (writeData .dataName cs t) :=
  (written_writeData .dataName cs t).mono fun _ => LiteralSet.contains_of_erase

theorem written_dataValue (cs : Charset) (t : Text) :
    Written .rawValue (writeData .dataValue cs t) :=
  (written_writeData .dataValue cs t).mono fun _ => LiteralSet.contains_of_erase

/-- A byte reads back from what is written of it. -/
theorem decode_map_writeByte (hset : set.IsPlain) (b : UInt8) (t : Text) :
    decode ((writeByte set b).map (readPlus plus) ++ t) = b :: decode t := by
  rw [writeByte]
  split
  · next hlit =>
    have hlow := hset.ascii _ hlit
    rw [Utf8.toNat_ofNat_toNat] at hlow
    have hbyte : Utf8.encodeChar (Char.ofNat b.toNat) = [b] := by
      rw [Utf8.encodeChar, Utf8.toNat_ofNat_toNat, if_pos hlow,
        UInt8.ofNat_toNat]
    rw [List.map_singleton, readPlus_of_ne (ne_of_contains hlit hset.plus),
      List.singleton_append, decode_char (ne_of_contains hlit hset.percent),
      hbyte]
    rfl
  · exact decode_map_escape b t

theorem decode_map_writeBytes (hset : set.IsPlain) (bytes : Bytes) :
    decode ((writeBytes set bytes).map (readPlus plus)) = bytes :=
  decode_map_flatMap (decode_map_writeByte hset) bytes

end Percent

end HttpExchange
