import HttpExchange.Proofs.Charset.Ascii
import HttpExchange.Proofs.Percent.Data
import HttpExchange.Proofs.Percent.Stability
import HttpExchange.Proofs.Query.Reading
import HttpExchange.Text.Blank

/-! Normal forms are the canonical queries. Whatever the charset, a normal form
is canonical; and where the charset keeps ASCII, a canonical query is its own
normal form. So the canonical queries are exactly those that normalization
leaves as they are, and a second normalization changes nothing. Nothing in a
canonical query is blank; and a `?` that begins one belongs to its first name, so
that what follows is canonical too. -/

namespace HttpExchange.Query

open QueryReader (tokenTexts)

section KeepsAscii

variable {cs : Charset} (hcs : cs.KeepsAscii)

include hcs

/-- A canonical token stays as it is. -/
theorem CanonicalToken.writeToken_eq_self {token : Text}
    (h : CanonicalToken token) : writeToken cs token = token := by
  obtain ⟨name, value, hname, hvalue, rfl⟩ := h
  rw [writeToken, tokenParts_of_written hname,
    Percent.writeRaw_eq_self hcs LiteralSet.isPrintable_rawName
      LiteralSet.rawName_contains_percent hname,
    Percent.writeRaw_eq_self hcs LiteralSet.isPrintable_rawValue
      LiteralSet.rawValue_contains_percent hvalue]

/-- A canonical query stays as it is. -/
theorem Canonical.normalize_eq_self {query : Text} (h : Canonical query) :
    normalize cs query = query := by
  obtain ⟨tokens, htokens, rfl⟩ := h
  have hmap : tokens.map (writeToken cs) = tokens := by
    conv_rhs => rw [← List.map_id tokens]
    exact List.map_congr_left fun token hmem =>
      (htokens token hmem).writeToken_eq_self hcs
  rw [normalize_eq_join, tokenTexts_join_canonical htokens, hmap]

/-- Exactly the canonical queries stay as they are. -/
theorem normalize_eq_self_iff {query : Text} :
    normalize cs query = query ↔ Canonical query := by
  constructor
  · intro h
    rw [← h]
    exact canonical_normalize cs query
  · intro h
    exact h.normalize_eq_self hcs

end KeepsAscii

theorem contains_rawName_iff {c : Char} :
    LiteralSet.rawName.contains c = true ↔ c.isAlphanum = true ∨
      c ∈ ['-', '.', '_', '~', '!', '$', '\'', '(', ')', '*', '+', ',', ';', ':',
        '@', '/', '?'] := by
  rw [LiteralSet.contains, Bool.or_eq_true, List.contains_iff_mem]
  rfl

theorem contains_rawValue_iff {c : Char} :
    LiteralSet.rawValue.contains c = true ↔
      c = '=' ∨ LiteralSet.rawName.contains c = true := by
  rw [LiteralSet.contains, LiteralSet.contains, LiteralSet.rawValue]
  simp only [Bool.or_eq_true, List.contains_iff_mem, List.mem_cons]
  exact or_left_comm

/-! ## What a canonical query holds -/

/-- No blank character is literal in a value, and so in none of the sets. -/
theorem isBlank_of_contains_rawValue {c : Char}
    (h : LiteralSet.rawValue.contains c = true) : Text.isBlank c = false := by
  have hmarks : (LiteralSet.rawValue.marks.all fun c => !Text.isBlank c) = true := rfl
  rw [LiteralSet.contains, Bool.or_eq_true] at h
  rcases h with h | h
  · have hrange := LiteralSet.toNat_of_isAlphanum h
    exact Text.isBlank_of_toNat (by omega) (by omega)
  · simpa using List.all_eq_true.mp hmarks c (List.contains_iff_mem.mp h)

/-- Written text has no blank characters. -/
theorem isBlank_of_mem_written {t : Text} (h : Percent.Written .rawValue t) :
    ∀ c ∈ t, Text.isBlank c = false := by
  have hdigit : ∀ {c : Char}, Hex.isDigit c = true → Text.isBlank c = false := by
    intro c hc
    have hrange := Hex.toNat_of_isDigit hc
    exact Text.isBlank_of_toNat (by omega) (by omega)
  induction h with
  | nil => simp
  | literal hc _ ih =>
    exact List.forall_mem_cons.mpr ⟨isBlank_of_contains_rawValue hc, ih⟩
  | escape ha hb _ ih =>
    simp only [List.forall_mem_cons]
    exact ⟨rfl, hdigit ha, hdigit hb, ih⟩

theorem CanonicalToken.isBlank_of_mem {token : Text} (h : CanonicalToken token) :
    ∀ c ∈ token, Text.isBlank c = false := by
  obtain ⟨name, value, hname, hvalue, rfl⟩ := h
  have hname' : Percent.Written .rawValue name :=
    hname.mono fun c hc => contains_rawValue_iff.mpr (.inr hc)
  rw [List.forall_mem_append, List.forall_mem_cons]
  exact ⟨isBlank_of_mem_written hname', rfl, isBlank_of_mem_written hvalue⟩

/-- Nothing in a canonical query is blank. -/
theorem Canonical.isBlank_of_mem {query : Text} (h : Canonical query) :
    ∀ c ∈ query, Text.isBlank c = false := by
  obtain ⟨tokens, htokens, rfl⟩ := h
  intro c hc
  rcases Text.mem_of_mem_join hc with rfl | ⟨token, hmem, hc⟩
  · rfl
  · exact (htokens token hmem).isBlank_of_mem c hc

theorem Canonical.allBlank_eq_false {query : Text} (h : Canonical query)
    (hne : query ≠ []) : Text.allBlank query = false := by
  rw [← Bool.not_eq_true]
  exact fun hblank => hne (Text.eq_nil_of_allBlank h.isBlank_of_mem hblank)

/-- A `?` that begins a canonical query begins its first name. -/
theorem Canonical.exists_of_question {rest : Text} (h : Canonical ('?' :: rest)) :
    ∃ name value others, Percent.Written .rawName name ∧
      Percent.Written .rawName ('?' :: name) ∧ Percent.Written .rawValue value ∧
      (∀ token ∈ others, CanonicalToken token) ∧
      rest = Text.join '&' ((name ++ '=' :: value) :: others) := by
  obtain ⟨tokens, htokens, hjoin⟩ := h
  cases tokens with
  | nil => cases hjoin
  | cons token others =>
    rw [List.forall_mem_cons] at htokens
    obtain ⟨⟨name, value, hname, hvalue, rfl⟩, hothers⟩ := htokens
    rw [Text.join_append_cons] at hjoin
    cases hname with
    | nil =>
      have hequals := hjoin.trans (Text.join_append_cons '&' ['='] value others)
      cases (List.cons.inj hequals).1
    | escape => cases (List.cons.inj hjoin).1
    | @literal c short hc hshort =>
      obtain ⟨rfl, hrest⟩ := List.cons.inj hjoin
      refine ⟨short, value, others, hshort, .literal hc hshort, hvalue, hothers, ?_⟩
      rw [hrest, Text.join_append_cons]
      rfl

theorem Canonical.of_question {rest : Text} (h : Canonical ('?' :: rest)) :
    Canonical rest := by
  obtain ⟨name, value, others, hname, -, hvalue, hothers, rfl⟩ := h.exists_of_question
  refine ⟨_, List.forall_mem_cons.mpr ⟨?_, hothers⟩, rfl⟩
  exact ⟨name, value, hname, hvalue, rfl⟩

/-- Canonical queries are what normalization yields and what it leaves alone, in
every charset that keeps ASCII, which all charsets with a label do. Literal in
them are the letters, the digits and seventeen marks, and in values also `=`. -/
theorem normalize_canonical :
    (∀ c, LiteralSet.rawName.contains c = true ↔ c.isAlphanum = true ∨
      c ∈ ['-', '.', '_', '~', '!', '$', '\'', '(', ')', '*', '+', ',', ';', ':',
        '@', '/', '?']) ∧
    (∀ c, LiteralSet.rawValue.contains c = true ↔
      c = '=' ∨ LiteralSet.rawName.contains c = true) ∧
    (∀ cs : Charset, cs.KeepsAscii →
      (∀ raw, Canonical (normalize cs raw)) ∧
      (∀ query, Canonical query → normalize cs query = query) ∧
      (∀ query, normalize cs query = query ↔ Canonical query) ∧
      ∀ raw, normalize cs (normalize cs raw) = normalize cs raw) ∧
    ∀ label cs, Charset.ofLabel? label = some cs → cs.KeepsAscii := by
  refine ⟨fun _ => contains_rawName_iff, fun _ => contains_rawValue_iff, ?_, ?_⟩
  · intro cs hcs
    refine ⟨canonical_normalize cs, fun query h => h.normalize_eq_self hcs,
      fun query => normalize_eq_self_iff hcs, fun raw => ?_⟩
    exact (canonical_normalize cs raw).normalize_eq_self hcs
  · intro label cs h
    exact Charset.keepsAscii_of_ofLabel? h

/-- Bytes of ASCII that come of another script, a stray `%`, an escape in lower
case, a `=` in a value, and tokens that are empty. -/
theorem normalize_canonical_iso2022jp :
    Charset.iso2022jp.KeepsAscii ∧
    normalize .iso2022jp "三?=%zz=&&%4a b&".toList =
      "%1B$B;0%1B(B?=%25zz=&%4a%20b=".toList ∧
    normalize .iso2022jp "%1B$B;0%1B(B?=%25zz=&%4a%20b=".toList =
      "%1B$B;0%1B(B?=%25zz=&%4a%20b=".toList := by
  have hwritten : normalize .iso2022jp "三?=%zz=&&%4a b&".toList =
      "%1B$B;0%1B(B?=%25zz=&%4a%20b=".toList := by decide +kernel
  obtain ⟨-, -, -, hagain⟩ :=
    normalize_canonical.2.2.1 .iso2022jp Charset.keepsAscii_iso2022jp
  refine ⟨Charset.keepsAscii_iso2022jp, hwritten, ?_⟩
  rw [← hwritten]
  exact hagain _

end Query

end HttpExchange
