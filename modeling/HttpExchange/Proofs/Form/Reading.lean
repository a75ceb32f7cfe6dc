import HttpExchange.Proofs.Query.Reading
import HttpExchange.Query.Typed

/-! Forms read as queries. A form is cut and its escapes are replaced on octets, a
query on characters. Both give the same, since `&`, `=`, `+`, `%` and the digits
are ASCII: their octets occur in no other character, and a text whose octets begin
like them begins with these characters. So the pairs of a form are those that a
lenient reader of UTF-8 finds to whom `+` is a space. -/

namespace HttpExchange

namespace Utf8

/-! ## ASCII among the octets of a text -/

theorem encode_cons (c : Char) (t : Text) :
    encode (c :: t) = encodeChar c ++ encode t := rfl

theorem encodeChar_ne_nil (c : Char) : encodeChar c ≠ [] :=
  List.ne_nil_of_length_pos (size_pos c)

theorem isEmpty_encode (t : Text) : (encode t).isEmpty = t.isEmpty := by
  cases t with
  | nil => rfl
  | cons c t => simp [encode_cons, encodeChar_ne_nil]

/-- An ASCII character is written as the octet with its number. -/
theorem encodeChar_ascii {c : Char} (h : c.toNat < 0x80) :
    encodeChar c = [.ofNat c.toNat] := by
  rw [encodeChar, if_pos h]

/-- The octet of an ASCII character occurs in no other character. -/
theorem not_mem_encodeChar {c d : Char} (hd : d.toNat < 0x80) (h : c ≠ d) :
    UInt8.ofNat d.toNat ∉ encodeChar c := by
  intro hmem
  have hbyte : (UInt8.ofNat d.toNat).toNat = d.toNat := by
    rw [UInt8.toNat_ofNat', Nat.mod_eq_of_lt (by omega)]
  by_cases hc : c.toNat < 0x80
  · rw [encodeChar_ascii hc, List.mem_singleton] at hmem
    apply h
    rw [← ofNat_toNat_ofNat hc, ← ofNat_toNat_ofNat hd, hmem]
  · have := toNat_le_of_mem_encodeChar hc hmem
    omega

/-- A text whose first octet is ASCII begins with that character. -/
theorem eq_cons_of_encode {t : Text} {b : UInt8} {rest : Bytes}
    (h : encode t = b :: rest) (hb : b.toNat < 0x80) :
    ∃ t', t = Char.ofNat b.toNat :: t' ∧ encode t' = rest := by
  cases t with
  | nil => cases h
  | cons c t =>
    rw [encode_cons] at h
    have hc : c.toNat < 0x80 := by
      by_contra hc
      obtain ⟨first, others, hchar⟩ :=
        List.exists_cons_of_ne_nil (encodeChar_ne_nil c)
      rw [hchar, List.cons_append] at h
      obtain ⟨rfl, -⟩ := List.cons.inj h
      have := toNat_le_of_mem_encodeChar hc (hchar ▸ List.mem_cons_self)
      omega
    rw [encodeChar_ascii hc, List.singleton_append] at h
    obtain ⟨rfl, rfl⟩ := List.cons.inj h
    exact ⟨t, by rw [ofNat_toNat_ofNat hc], rfl⟩

end Utf8

namespace Form

open QueryReader (tokenParts tokenTexts)

/-! ## Pieces -/

/-- Bytes without `&` go to the first piece. -/
theorem pieces_append {bytes rest piece : Bytes} {others : List Bytes}
    (hamp : 0x26 ∉ bytes) (h : pieces rest = piece :: others) :
    pieces (bytes ++ rest) = (bytes ++ piece) :: others := by
  induction bytes with
  | nil => exact h
  | cons b bytes ih =>
    rw [List.mem_cons, not_or] at hamp
    rw [List.cons_append, pieces, if_neg (Ne.symm hamp.1), ih hamp.2]
    rfl

/-- The pieces of a text are the same, cut before or after it is written. -/
theorem pieces_encode (t : Text) :
    pieces (Utf8.encode t) = (Text.split '&' t).map Utf8.encode := by
  induction t with
  | nil => rfl
  | cons c t ih =>
    rw [Text.split]
    by_cases hc : c = '&'
    · subst hc
      rw [if_pos rfl, List.map_cons, ← ih]
      rfl
    · rw [if_neg hc]
      obtain ⟨piece, others, hsplit⟩ :=
        List.exists_cons_of_ne_nil (Text.split_ne_nil '&' t)
      rw [hsplit, List.map_cons] at ih
      rw [hsplit, Utf8.encode_cons,
        pieces_append (Utf8.not_mem_encodeChar (d := '&') (by decide) hc) ih]
      rfl

/-! ## Names and values -/

theorem nameAndValue_append {bytes : Bytes} (h : 0x3D ∉ bytes) (rest : Bytes) :
    nameAndValue (bytes ++ rest) =
      (bytes ++ (nameAndValue rest).1, (nameAndValue rest).2) := by
  induction bytes with
  | nil => rfl
  | cons b bytes ih =>
    rw [List.mem_cons, not_or] at h
    rw [List.cons_append, nameAndValue, if_neg (Ne.symm h.1), ih h.2]
    rfl

theorem tokenParts_cons {c : Char} (h : c ≠ '=') (t : Text) :
    tokenParts (c :: t) = (c :: (tokenParts t).1, (tokenParts t).2) := by
  rw [tokenParts, tokenParts, Text.cut?, if_neg h]
  cases Text.cut? '=' t <;> rfl

/-- A token is cut at the same `=`, before or after it is written. -/
theorem nameAndValue_encode (t : Text) :
    nameAndValue (Utf8.encode t) =
      (Utf8.encode (tokenParts t).1, Utf8.encode (tokenParts t).2) := by
  induction t with
  | nil => rfl
  | cons c t ih =>
    by_cases hc : c = '='
    · subst hc
      rfl
    · rw [Utf8.encode_cons, tokenParts_cons hc,
        nameAndValue_append (Utf8.not_mem_encodeChar (d := '=') (by decide) hc), ih]
      rfl

/-! ## Escapes -/

theorem unescape_append {bytes : Bytes} (h : 0x25 ∉ bytes) (rest : Bytes) :
    unescape (bytes ++ rest) = bytes ++ unescape rest := by
  induction bytes with
  | nil => rfl
  | cons b bytes ih =>
    rw [List.mem_cons, not_or] at h
    rw [List.cons_append, List.cons_append, ← ih h.2]
    generalize bytes ++ rest = tail
    match tail with
    | [] => simp [unescape, Ne.symm h.1]
    | [_] => simp [unescape, Ne.symm h.1]
    | _ :: _ :: _ => simp [unescape, Ne.symm h.1]

theorem unescape_escape {a b byte : UInt8} (h : escapedByte? a b = some byte)
    (rest : Bytes) : unescape (0x25 :: a :: b :: rest) = byte :: unescape rest := by
  simp [unescape, h]

theorem unescape_stray {bytes : Bytes}
    (h : ∀ a b rest, bytes = a :: b :: rest → escapedByte? a b = none) :
    unescape (0x25 :: bytes) = 0x25 :: unescape bytes := by
  match bytes, h with
  | [], _ => rfl
  | [_], _ => rfl
  | a :: b :: rest, h => simp [unescape, h a b rest rfl]

/-- The octets of two ASCII characters spell what the characters spell. -/
theorem escapedByte?_ofNat {a b : Char} (ha : a.toNat < 0x80) (hb : b.toNat < 0x80) :
    escapedByte? (.ofNat a.toNat) (.ofNat b.toNat) = Hex.byte? a b := by
  rw [escapedByte?, Utf8.ofNat_toNat_ofNat ha, Utf8.ofNat_toNat_ofNat hb]

theorem toNat_lt_of_isDigit_ofNat {b : UInt8}
    (h : Hex.isDigit (Char.ofNat b.toNat) = true) : b.toNat < 0x80 := by
  rw [← Utf8.toNat_ofNat_toNat]
  exact Hex.toNat_lt_of_isDigit h

/-- Where the text has no escape, its bytes have none. -/
theorem escapedByte?_of_encode {t : Text} (h : Percent.escaped? t = none)
    {a b : UInt8} {rest : Bytes} (ht : Utf8.encode t = a :: b :: rest) :
    escapedByte? a b = none := by
  by_contra hsome
  have hdigits : (escapedByte? a b).isSome = true :=
    Option.isSome_iff_ne_none.mpr hsome
  rw [escapedByte?, Hex.byte?_isSome, Bool.and_eq_true] at hdigits
  obtain ⟨ha, hb⟩ := hdigits
  obtain ⟨after, rfl, hafter⟩ :=
    Utf8.eq_cons_of_encode ht (toNat_lt_of_isDigit_ofNat ha)
  obtain ⟨tail, rfl, -⟩ :=
    Utf8.eq_cons_of_encode hafter (toNat_lt_of_isDigit_ofNat hb)
  rw [Percent.escaped?_eq_none_iff, ha, hb] at h
  cases h

/-- Escapes are the same, replaced before or after the text is written. -/
theorem unescape_encode (t : Text) : unescape (Utf8.encode t) = Percent.decode t := by
  induction t using Percent.escape_induction with
  | nil => rfl
  | escape a b t ha hb ih =>
    obtain ⟨byte, hbyte⟩ : ∃ byte, Hex.byte? a b = some byte := by
      rw [← Option.isSome_iff_exists, Hex.byte?_isSome, ha, hb]
      rfl
    have ha' := Hex.toNat_lt_of_isDigit ha
    have hb' := Hex.toNat_lt_of_isDigit hb
    rw [Percent.decode_escape hbyte, ← ih, Utf8.encode_cons, Utf8.encode_cons,
      Utf8.encode_cons, Utf8.encodeChar_ascii ha', Utf8.encodeChar_ascii hb']
    exact unescape_escape ((escapedByte?_ofNat ha' hb').trans hbyte) _
  | stray t he ih =>
    rw [Percent.decode_stray he, ← ih]
    exact unescape_stray fun a b rest ht => escapedByte?_of_encode he ht
  | char c t hc ih =>
    rw [Percent.decode_char hc, ← ih, Utf8.encode_cons,
      unescape_append (Utf8.not_mem_encodeChar (d := '%') (by decide) hc)]

/-- Plus signs are the same as well. -/
theorem map_plus_encode (t : Text) :
    ((Utf8.encode t).map fun b => if b = 0x2B then 0x20 else b) =
      Utf8.encode (t.map (Percent.readPlus true)) := by
  induction t with
  | nil => rfl
  | cons c t ih =>
    rw [Utf8.encode_cons, List.map_append, ih, List.map_cons, Utf8.encode_cons]
    congr 1
    by_cases hc : c = '+'
    · subst hc
      rfl
    · have hplus := Utf8.not_mem_encodeChar (d := '+') (by decide) hc
      rw [Percent.readPlus_of_ne hc]
      refine (List.map_congr_left fun b hb => ?_).trans (List.map_id _)
      rw [if_neg]
      · rfl
      · rintro rfl
        exact hplus hb

/-! ## Forms -/

section Reader

variable {r : QueryReader} (hcs : r.charset = .utf8) (hplus : r.plusIsSpace = true)

include hcs hplus

/-- A name or value reads the same as a form and as a component. -/
theorem readText_encode (t : Text) : readText (Utf8.encode t) = r.readText t := by
  rw [readText, map_plus_encode, unescape_encode, QueryReader.readText_eq, hcs,
    hplus]
  rfl

/-- The pairs of a form are those of its tokens. -/
theorem parse_eq_map_pairOf (raw : Text) :
    parse raw = (tokenTexts raw).map r.pairOf := by
  have hempty : (fun piece : Bytes => !piece.isEmpty) ∘ Utf8.encode =
      fun token : Text => !token.isEmpty := by
    funext token
    rw [Function.comp_apply, Utf8.isEmpty_encode]
  rw [parse, pieces_encode, List.filter_map, hempty, ← tokenTexts, List.map_map]
  refine List.map_congr_left fun token _ => ?_
  show ((readText (nameAndValue (Utf8.encode token)).1,
    readText (nameAndValue (Utf8.encode token)).2) : Text × Text) = _
  rw [nameAndValue_encode, readText_encode hcs hplus, readText_encode hcs hplus]
  rfl

end Reader

end Form

namespace Query

open QueryReader (tokenTexts)

/-- Forms are read as queries are: the pairs of a form, its values taken as text,
are those that a lenient reader of UTF-8 finds to whom `+` is a space. Neither
of them ever fails. -/
theorem readPairs_text (raw : Text) :
    ∃ pairs,
      ({ charset := .utf8, lenient := true, plusIsSpace := true } :
        QueryReader).pairs raw = .ok pairs ∧
      readPairs .text raw =
        .ok (pairs.map fun (name, value) => (name, .text value)) := by
  let lenient : QueryReader :=
    { charset := .utf8, lenient := true, plusIsSpace := true }
  have hparse : Form.parse raw = (tokenTexts raw).map lenient.pairOf :=
    Form.parse_eq_map_pairOf rfl rfl raw
  have hpair : ∀ pair ∈ Form.parse raw,
      readPair .text pair = .ok (pair.1, .text pair.2) := fun _ _ => rfl
  refine ⟨Form.parse raw, ?_, ?_⟩
  · rw [QueryReader.pairs_lenient rfl, hparse]
    rfl
  · rw [readPairs, QueryReader.mapM_eq_ok hpair]
    rfl

end Query

end HttpExchange
