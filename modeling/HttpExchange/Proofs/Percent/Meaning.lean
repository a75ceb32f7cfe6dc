import HttpExchange.Charset.Unicode
import HttpExchange.Percent.Decode
import HttpExchange.Proofs.Percent.Component
import Mathlib.Data.List.Basic

/-! What components mean in UTF-8. There runs make no difference: writing raw
text is one pass over its characters, each of them written on its own. What has
been written so reads back as the same bytes, also when every `+` is taken for a
space first, since a raw set leaves `+` alone and no other character becomes
one. -/

namespace HttpExchange

namespace LiteralSet

/-- A set of ASCII characters. -/
def IsAscii (set : LiteralSet) : Prop :=
  ∀ c, set.contains c = true → c.toNat < 0x80

theorem toNat_of_isAlphanum {c : Char} (h : c.isAlphanum = true) :
    0x30 ≤ c.toNat ∧ c.toNat ≤ 0x7A := by
  change ((decide (c.val ≥ 65 ∧ c.val ≤ 90) ||
    decide (c.val ≥ 97) && decide (c.val ≤ 122)) ||
    decide (c.val ≥ 48) && decide (c.val ≤ 57)) = true at h
  simp only [Bool.or_eq_true, Bool.and_eq_true, decide_eq_true_eq,
    UInt32.le_iff_toNat_le, ge_iff_le] at h
  change ((65 ≤ c.toNat ∧ c.toNat ≤ 90) ∨ (97 ≤ c.toNat ∧ c.toNat ≤ 122)) ∨
    (48 ≤ c.toNat ∧ c.toNat ≤ 57) at h
  omega

/-- A set is ASCII if its marks are. -/
theorem isAscii_of_marks {set : LiteralSet}
    (h : set.marks.all fun c => c.toNat < 0x80) : set.IsAscii := by
  intro c hc
  rw [contains, Bool.or_eq_true] at hc
  rcases hc with hc | hc
  · have := toNat_of_isAlphanum hc
    omega
  · exact of_decide_eq_true
      (List.all_eq_true.mp h c (List.contains_iff_mem.mp hc))

theorem isAscii_rawName : rawName.IsAscii := isAscii_of_marks rfl

theorem isAscii_rawValue : rawValue.IsAscii := isAscii_of_marks rfl

end LiteralSet

/-- An octet is told from the character with its number. -/
theorem Utf8.toNat_ofNat_toNat (b : UInt8) :
    (Char.ofNat b.toNat).toNat = b.toNat := by
  have hb : b.toNat.isValidChar := Or.inl (by have := b.toNat_lt; omega)
  rw [Char.ofNat, dif_pos hb]
  rfl

/-- A character of ASCII is told from its octet. -/
theorem Utf8.ofNat_toNat_ofNat {c : Char} (h : c.toNat < 0x80) :
    Char.ofNat (UInt8.ofNat c.toNat).toNat = c := by
  rw [UInt8.toNat_ofNat', Nat.mod_eq_of_lt (by omega), Char.ofNat_toNat]

/-- Every octet of a character beyond ASCII is beyond ASCII. -/
theorem Utf8.toNat_le_of_mem_encodeChar {c : Char} (hc : ¬ c.toNat < 0x80)
    {b : UInt8} (hb : b ∈ encodeChar c) : 0x80 ≤ b.toNat := by
  have hv : c.toNat < 0xD800 ∨ (0xDFFF < c.toNat ∧ c.toNat < 0x110000) :=
    c.valid
  simp only [encodeChar, if_neg hc] at hb
  split at hb
  · simp at hb
    rcases hb with rfl | rfl <;> simp <;> omega
  · split at hb
    · simp at hb
      rcases hb with rfl | rfl | rfl <;> simp <;> omega
    · simp at hb
      rcases hb with rfl | rfl | rfl | rfl <;> simp <;> omega

namespace Percent

variable {set : LiteralSet}

/-! ## One pass over the characters -/

/-- The octets of a character are literal where the character is. -/
theorem writeBytes_encodeChar (hset : set.IsAscii) (c : Char) :
    writeBytes set (Utf8.encodeChar c) = writeChar set c := by
  by_cases hlow : c.toNat < 0x80
  · rw [Utf8.encodeChar, if_pos hlow, writeBytes, List.flatMap_singleton,
      writeByte, Utf8.ofNat_toNat_ofNat hlow, writeChar]
    simp [hlow, Utf8.encodeChar]
  · have hlit : set.contains c = false := by
      rw [← Bool.not_eq_true]
      exact fun h => hlow (hset c h)
    rw [writeChar, hlit, if_neg (by simp), writeBytes]
    -- Octets beyond ASCII are no characters of the set either.
    refine List.flatMap_congr fun b hb => ?_
    have hb := Utf8.toNat_le_of_mem_encodeChar hlow hb
    rw [writeByte, if_neg]
    intro h
    have := hset _ h
    rw [Utf8.toNat_ofNat_toNat] at this
    omega

theorem writeData_utf8 (hset : set.IsAscii) (t : Text) :
    writeData set .utf8 t = writeChars set t := by
  induction t with
  | nil => rfl
  | cons c rest ih =>
    change writeBytes set (Utf8.encodeChar c ++ Utf8.encode rest) = _
    rw [writeBytes, List.flatMap_append, ← writeBytes,
      writeBytes_encodeChar hset, writeChars, List.flatMap_cons]
    exact congrArg _ ih

theorem writeRawChars_escape {a b : Char} {t : Text}
    (ha : Hex.isDigit a = true) (hb : Hex.isDigit b = true) :
    writeRawChars set ('%' :: a :: b :: t) =
      '%' :: a :: b :: writeRawChars set t := by
  simp [writeRawChars, ha, hb]

theorem writeRawChars_stray {t : Text} (h : escaped? t = none) :
    writeRawChars set ('%' :: t) = '%' :: '2' :: '5' :: writeRawChars set t := by
  match t with
  | [] => rfl
  | [_] => rfl
  | a :: b :: t =>
    have hd := escaped?_eq_none_iff.mp h
    simp [writeRawChars, hd]

theorem writeRawChars_char {c : Char} {t : Text} (h : c ≠ '%') :
    writeRawChars set (c :: t) = writeChar set c ++ writeRawChars set t := by
  match t with
  | [] => simp [writeRawChars, h]
  | [_] => simp [writeRawChars, h]
  | _ :: _ :: _ => simp [writeRawChars, h]

theorem writeRuns_utf8 (hset : set.IsAscii) (run t : Text) :
    writeRuns set .utf8 run t = writeChars set run ++ writeRawChars set t := by
  induction t using escape_induction generalizing run with
  | nil => simp [writeRuns, writeRawChars, writeData_utf8 hset]
  | escape a b t ha hb ih =>
    rw [writeRuns_escape ha hb, writeRawChars_escape ha hb, ih,
      writeData_utf8 hset]
    rfl
  | stray t he ih =>
    rw [writeRuns_stray he, writeRawChars_stray he, ih, writeData_utf8 hset]
    rfl
  | char c t hc ih =>
    rw [writeRuns_char hc, writeRawChars_char hc, ih]
    simp [writeChars]

/-- In UTF-8 raw text is written one character at a time. -/
theorem writeRaw_utf8 (hset : set.IsAscii) (t : Text) :
    writeRaw set .utf8 t = writeRawChars set t := by
  rw [writeRaw_eq_writeRuns, writeRuns_utf8 hset]
  rfl

/-! ## Reading back -/

theorem decode_char {c : Char} {t : Text} (h : c ≠ '%') :
    decode (c :: t) = Utf8.encodeChar c ++ decode t := by
  match t with
  | [] => simp [decode, h]
  | [_] => simp [decode, h]
  | _ :: _ :: _ => simp [decode, h]

theorem decode_escape {a b : Char} {t : Text} {byte : UInt8}
    (h : Hex.byte? a b = some byte) :
    decode ('%' :: a :: b :: t) = byte :: decode t := by
  simp [decode, h]

theorem decode_stray {t : Text} (h : escaped? t = none) :
    decode ('%' :: t) = 0x25 :: decode t := by
  match t with
  | [] => rfl
  | [_] => rfl
  | a :: b :: t =>
    have hb : Hex.byte? a b = none := by simpa [escaped?] using h
    simp [decode, hb]

/-- A plus sign as a space if `plus` says so; any other character as it is. -/
def readPlus (plus : Bool) (c : Char) : Char :=
  if plus && c = '+' then ' ' else c

variable {plus : Bool}

theorem readPlus_of_ne {c : Char} (h : c ≠ '+') : readPlus plus c = c := by
  simp [readPlus, h]

theorem readPlus_plus : readPlus plus '+' = '+' ∨ readPlus plus '+' = ' ' := by
  cases plus
  · exact .inl rfl
  · exact .inr rfl

theorem readPlus_ne_percent {c : Char} (h : c ≠ '%') :
    readPlus plus c ≠ '%' := by
  rw [readPlus]
  split
  · decide
  · exact h

theorem readPlus_of_isDigit {c : Char} (h : Hex.isDigit c = true) :
    readPlus plus c = c := by
  refine readPlus_of_ne ?_
  rintro rfl
  cases h

/-- A space for a plus sign makes no digit and takes none away. -/
theorem isDigit_readPlus (c : Char) :
    Hex.isDigit (readPlus plus c) = Hex.isDigit c := by
  by_cases hc : c = '+'
  · subst hc
    rcases @readPlus_plus plus with h | h
    · rw [h]
    · rw [h]
      rfl
  · rw [readPlus_of_ne hc]

theorem escaped?_map_readPlus {t : Text} (h : escaped? t = none) :
    escaped? (t.map (readPlus plus)) = none := by
  match t with
  | [] => rfl
  | [_] => rfl
  | a :: b :: t =>
    rw [escaped?_eq_none_iff] at h
    rw [List.map_cons, List.map_cons, escaped?_eq_none_iff, isDigit_readPlus,
      isDigit_readPlus, h]

theorem decode_map_escape (b : UInt8) (t : Text) :
    decode ((escape b).map (readPlus plus) ++ t) = b :: decode t := by
  have hb := b.toNat_lt
  have hhigh := Hex.isDigit_digit (n := b.toNat / 16) (by omega)
  have hlow := Hex.isDigit_digit (n := b.toNat % 16) (by omega)
  simp only [escape, Hex.ofByte, List.map_cons, List.map_nil, List.cons_append,
    List.nil_append, readPlus_of_isDigit hhigh, readPlus_of_isDigit hlow,
    readPlus_of_ne (show '%' ≠ '+' by decide)]
  exact decode_escape (Hex.byte?_ofByte b)

section Bytes

variable {write : UInt8 → Text}
  (h : ∀ b t, decode ((write b).map (readPlus plus) ++ t) = b :: decode t)

include h

/-- Bytes read back if each of them does, whatever stands behind it. -/
theorem decode_map_flatMap_append (bytes : Bytes) (t : Text) :
    decode ((bytes.flatMap write).map (readPlus plus) ++ t) =
      bytes ++ decode t := by
  induction bytes with
  | nil => rfl
  | cons b rest ih =>
    rw [List.flatMap_cons, List.map_append, List.append_assoc, h, ih,
      List.cons_append]

theorem decode_map_flatMap (bytes : Bytes) :
    decode ((bytes.flatMap write).map (readPlus plus)) = bytes := by
  have hend := decode_map_flatMap_append h bytes []
  rwa [decode, List.append_nil, List.append_nil] at hend

end Bytes

/-- A character that has been written reads back as its octets. -/
theorem decode_map_writeChar {c : Char} (hplus : set.contains '+' = true)
    (hc : c ≠ '%') (t : Text) :
    decode ((writeChar set c).map (readPlus plus) ++ t) =
      Utf8.encodeChar (readPlus plus c) ++ decode t := by
  rw [writeChar]
  split
  · exact decode_char (readPlus_ne_percent hc)
  · next hlit =>
    have hne : c ≠ '+' := by
      rintro rfl
      exact hlit hplus
    rw [decode_map_flatMap_append decode_map_escape, readPlus_of_ne hne]

/-- Raw text that has been written means what it meant before. -/
theorem decode_map_writeRawChars (hplus : set.contains '+' = true) (t : Text) :
    decode ((writeRawChars set t).map (readPlus plus)) =
      decode (t.map (readPlus plus)) := by
  have hsign : readPlus plus '%' = '%' := readPlus_of_ne (by decide)
  induction t using escape_induction with
  | nil => rfl
  | escape a b t ha hb ih =>
    obtain ⟨byte, hbyte⟩ : ∃ byte, Hex.byte? a b = some byte := by
      rw [← Option.isSome_iff_exists, Hex.byte?_isSome, ha, hb]
      rfl
    simp only [writeRawChars_escape ha hb, List.map_cons, hsign,
      readPlus_of_isDigit ha, readPlus_of_isDigit hb, decode_escape hbyte, ih]
  | stray t he ih =>
    have hsecond : readPlus plus '2' = '2' := readPlus_of_ne (by decide)
    have hthird : readPlus plus '5' = '5' := readPlus_of_ne (by decide)
    simp only [writeRawChars_stray he, List.map_cons, hsign, hsecond, hthird]
    rw [decode_escape (show Hex.byte? '2' '5' = some 0x25 from rfl), ih,
      decode_stray (escaped?_map_readPlus he)]
  | char c t hc ih =>
    rw [writeRawChars_char hc, List.map_append, decode_map_writeChar hplus hc,
      ih, List.map_cons, decode_char (readPlus_ne_percent hc)]

end Percent

end HttpExchange
