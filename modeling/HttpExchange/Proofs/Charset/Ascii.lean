import HttpExchange.Charset.Label

/-! ASCII in charsets. However much charsets differ beyond it, every one that can
be asked for writes a text of printable ASCII as it is: the charsets that write
character by character because they do so with each character, ISO-2022-JP
because such a text never leaves the set it begins in. -/

namespace HttpExchange.Charset

theorem toNat_of_isPrintableAscii {c : Char}
    (h : Text.isPrintableAscii c = true) : 0x20 ≤ c.toNat ∧ c.toNat < 0x80 := by
  simp only [Text.isPrintableAscii, Bool.and_eq_true, decide_eq_true_eq] at h
  omega

/-- Writing character by character keeps ASCII if each character is kept. -/
theorem encodeEach_ascii {write? : Char → Option Bytes}
    (h : ∀ c, c.toNat < 0x80 → write? c = some [.ofNat c.toNat]) {t : Text}
    (ht : t.all Text.isPrintableAscii = true) :
    encodeEach write? t = Text.asciiBytes t := by
  induction t with
  | nil => rfl
  | cons c rest ih =>
    rw [List.all_cons, Bool.and_eq_true] at ht
    obtain ⟨-, hhigh⟩ := toNat_of_isPrintableAscii ht.1
    rw [encodeEach, List.flatMap_cons, h c hhigh, ← encodeEach, ih ht.2]
    rfl

theorem utf8_encode_ascii {t : Text}
    (ht : t.all Text.isPrintableAscii = true) :
    Utf8.encode t = Text.asciiBytes t := by
  induction t with
  | nil => rfl
  | cons c rest ih =>
    rw [List.all_cons, Bool.and_eq_true] at ht
    obtain ⟨-, hhigh⟩ := toNat_of_isPrintableAscii ht.1
    rw [Utf8.encode, List.flatMap_cons, Utf8.encodeChar, if_pos hhigh,
      ← Utf8.encode, ih ht.2]
    rfl

/-! ## Ways to write -/

theorem keepsAscii_of_utf8 {cs : Charset} (hcs : cs.encode = Utf8.encode) :
    cs.KeepsAscii := by
  intro t ht
  rw [hcs, utf8_encode_ascii ht]

theorem keepsAscii_of_encodeEach {cs : Charset} {write? : Char → Option Bytes}
    (hcs : cs.encode = encodeEach write?)
    (h : ∀ c, c.toNat < 0x80 → write? c = some [.ofNat c.toNat]) :
    cs.KeepsAscii := by
  intro t ht
  rw [hcs, encodeEach_ascii h ht]

theorem keepsAscii_toCharset (s : SingleByte) : s.toCharset.KeepsAscii := by
  refine keepsAscii_of_encodeEach rfl fun c hc => ?_
  rw [SingleByte.byte?, if_pos hc]
  rfl

/-- A printable character of ASCII is written in ASCII if ASCII is in force. -/
theorem Iso2022Jp.place?_ascii {c : Char} (hlow : 0x20 ≤ c.toNat)
    (hhigh : c.toNat < 0x80) :
    place? .ascii c = some (.ascii, [.ofNat c.toNat]) := by
  rw [place?, if_neg (by omega), if_pos hhigh, if_neg]
  rintro ⟨⟨⟩, -⟩

theorem keepsAscii_iso2022jp : iso2022jp.KeepsAscii := by
  intro t ht
  show Iso2022Jp.encodeFrom .ascii t = Text.asciiBytes t
  induction t with
  | nil => rfl
  | cons c rest ih =>
    rw [List.all_cons, Bool.and_eq_true] at ht
    obtain ⟨hlow, hhigh⟩ := toNat_of_isPrintableAscii ht.1
    rw [Iso2022Jp.encodeFrom, Iso2022Jp.place?_ascii hlow hhigh,
      Option.getD_some]
    simp only [if_true, List.nil_append, ih ht.2]
    rfl

/-! ## Every charset -/

theorem keepsAscii_of_mem_labelled :
    ∀ entry ∈ labelled, entry.1.KeepsAscii := by
  have hgbk : gbk.KeepsAscii :=
    keepsAscii_of_encodeEach rfl fun _ h => if_pos h
  have hgb18030 : gb18030.KeepsAscii :=
    keepsAscii_of_encodeEach rfl fun _ h => if_pos h
  have hbig5 : big5.KeepsAscii :=
    keepsAscii_of_encodeEach rfl fun _ h => if_pos h
  have heucjp : eucjp.KeepsAscii :=
    keepsAscii_of_encodeEach rfl fun _ h => if_pos h
  -- Here U+0080 is written as one byte as well.
  have hshiftjis : shiftjis.KeepsAscii :=
    keepsAscii_of_encodeEach rfl fun _ h => if_pos (Nat.le_of_lt h)
  have heuckr : euckr.KeepsAscii :=
    keepsAscii_of_encodeEach rfl fun _ h => if_pos h
  have huserDefined : userDefined.KeepsAscii :=
    keepsAscii_of_encodeEach rfl fun _ h => if_pos h
  have hutf8 : utf8.KeepsAscii := keepsAscii_of_utf8 rfl
  -- These are only ever read; text for them is written in UTF-8.
  have hreplacement : replacement.KeepsAscii := keepsAscii_of_utf8 rfl
  have hutf16be : utf16be.KeepsAscii := keepsAscii_of_utf8 rfl
  have hutf16le : utf16le.KeepsAscii := keepsAscii_of_utf8 rfl
  simp only [labelled, List.forall_mem_cons, keepsAscii_toCharset,
    keepsAscii_iso2022jp, hgbk, hgb18030, hbig5, heucjp, hshiftjis, heuckr,
    huserDefined, hutf8, hreplacement, hutf16be, hutf16le, true_and]
  intro entry hmem
  cases hmem

/-- Every charset that has a label keeps ASCII. -/
theorem keepsAscii_of_ofLabel? {label : Text} {cs : Charset}
    (h : ofLabel? label = some cs) : cs.KeepsAscii := by
  rw [ofLabel?, Option.map_eq_some_iff] at h
  obtain ⟨entry, hfind, rfl⟩ := h
  exact keepsAscii_of_mem_labelled entry (List.mem_of_find?_eq_some hfind)

end HttpExchange.Charset
