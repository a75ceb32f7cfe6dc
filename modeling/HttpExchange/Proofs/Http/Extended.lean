import HttpExchange.Proofs.Http.Quoted
import HttpExchange.Proofs.Percent.Spelling
import HttpExchange.Proofs.Query.Canonical

/-! The extended form. Where a name stands in a header only in the extended form, the
other two forms decline: neither the language nor what follows the value can be taken
for one of them. The value then ends at the first semicolon, its charset and language
are told by the first two apostrophes, and what its escapes spell in UTF-8 is the name
that was given, whatever characters it is of. -/

namespace HttpExchange

theorem Charset.ofLabel?_utf8 : ofLabel? "UTF-8".toList = some utf8 := by
  rw [ofLabel?, labelled, List.find?_cons_of_pos (by decide +kernel)]
  rfl

namespace Disposition

/-- A file name in the extended form in UTF-8. -/
def writeExtended (language encoded : Text) : Text :=
  "UTF-8".toList ++ '\'' :: (language ++ '\'' :: encoded)

variable {t language encoded further : Text}

/-! ## The value -/

/-- There is nothing to trim around a value. -/
theorem trimBy_writeExtended {p : Char → Bool} (hlabel : p 'U' = false)
    (hmark : p '\'' = false) (hvalue : ∀ c ∈ encoded, p c = false) :
    Text.trimBy p (writeExtended language encoded) =
      writeExtended language encoded := by
  refine Text.trimBy_eq_self ?_ ?_
  · rintro c ⟨rfl⟩
    exact hlabel
  · intro c hc
    rw [writeExtended, List.getLast?_append_of_ne_nil _ (List.cons_ne_nil _ _),
      ← List.cons_append, List.getLast?_append_of_ne_nil _ (List.cons_ne_nil _ _)] at hc
    rcases List.mem_cons.mp (List.mem_of_getLast? hc) with rfl | hmem
    · exact hmark
    · exact hvalue c hmem

section Value

variable (hencoded : Percent.Spells (Utf8.encode t) encoded)

include hencoded

theorem not_mem_of_spells {c : Char} (hc : c.isAlphanum = false) (hsign : c ≠ '%')
    (hdigit : Hex.isDigit c = false) : c ∉ encoded :=
  hencoded.written.not_mem (by rw [LiteralSet.contains_alphanumeric, hc]) hsign hdigit

theorem isBlank_of_mem_spells : ∀ c ∈ encoded, Text.isBlank c = false := by
  refine Query.isBlank_of_mem_written (hencoded.written.mono fun c hc => ?_)
  rw [LiteralSet.contains_alphanumeric] at hc
  rw [LiteralSet.contains, hc, Bool.true_or]

/-- The value is what precedes the semicolon that follows it. -/
theorem cut?_writeExtended (hsemicolon : ';' ∉ language)
    (hfurther : further = [] ∨ ∃ rest, further = ';' :: rest) :
    ((Text.cut? ';' (writeExtended language encoded ++ further)).map
      Prod.fst).getD (writeExtended language encoded ++ further) =
        writeExtended language encoded := by
  have hvalue : ';' ∉ writeExtended language encoded := by
    have hmem := not_mem_of_spells hencoded (by decide : ';'.isAlphanum = false)
      (by decide) (by decide)
    simp [writeExtended, hsemicolon, hmem]
  rcases hfurther with rfl | ⟨rest, rfl⟩
  · rw [List.append_nil, Text.cut?_eq_none_iff.mpr hvalue]
    rfl
  · rw [Text.cut?_append hvalue]
    rfl

/-- The extended form gives the text that was written in it, unless that is blank. -/
theorem extended?_writeExtended (hmark : '\'' ∉ language) (hsemicolon : ';' ∉ language)
    (hfurther : further = [] ∨ ∃ rest, further = ';' :: rest) :
    extended? ("attachment; filename*=".toList ++
        (writeExtended language encoded ++ further)) "filename".toList =
      unlessBlank? t := by
  have hcut : Text.cutAt? ("filename".toList ++ ['*', '='])
      ("attachment; filename*=".toList ++ (writeExtended language encoded ++ further)) =
        some ("attachment; ".toList, writeExtended language encoded ++ further) := rfl
  have hquote := not_mem_of_spells hencoded (by decide : '"'.isAlphanum = false)
    (by decide) (by decide)
  have hlabel : Text.cut? '\'' (writeExtended language encoded) =
      some ("UTF-8".toList, language ++ '\'' :: encoded) := Text.cut?_append (by decide)
  have htrim : Text.trim "UTF-8".toList = "UTF-8".toList := by decide
  simp only [extended?, hcut, cut?_writeExtended hencoded hsemicolon hfurther]
  rw [Text.trim, trimBy_writeExtended rfl rfl (isBlank_of_mem_spells hencoded),
    trimBy_writeExtended rfl rfl fun c hc => ?_, hlabel]
  · simp only [Text.cut?_append hmark, htrim, Charset.ofLabel?_utf8, Option.getD_some]
    rw [hencoded.decode_eq]
    exact congrArg unlessBlank? (Utf8.decode_encode t)
  · rw [decide_eq_false_iff_not]
    exact fun heq => hquote (heq ▸ hc)

/-! ## The other forms -/

/-- The header holds the name of the parameter with `=` nowhere. -/
theorem not_isInfix_extended (hlanguage : ¬ "filename=".toList <:+: language)
    (hfurther : further = [] ∨ ∃ rest, further = ';' :: rest)
    (hrest : ¬ "filename=".toList <:+: further) :
    ¬ "filename=".toList <:+: "attachment; filename*=".toList ++
      (writeExtended language encoded ++ further) := by
  have hmark : '\'' ∉ "filename=".toList := by decide
  have hvalue : ¬ "filename=".toList <:+: encoded := by
    intro h
    exact not_mem_of_spells hencoded (by decide : '='.isAlphanum = false) (by decide)
      (by decide) (h.subset (by decide))
  intro h
  have hheader : "attachment; filename*=".toList ++
      (writeExtended language encoded ++ further) =
        "attachment; filename*=UTF-8".toList ++
          '\'' :: (language ++ '\'' :: (encoded ++ further)) := by
    simp [writeExtended]
  rw [hheader] at h
  rcases Text.isInfix_of_append_cons hmark h with h | h
  · revert h
    decide +kernel
  rcases Text.isInfix_of_append_cons hmark h with h | h
  · exact hlanguage h
  rcases hfurther with rfl | ⟨rest, rfl⟩
  · rw [List.append_nil] at h
    exact hvalue h
  · rcases Text.isInfix_of_append_cons (by decide) h with h | h
    · exact hvalue h
    · exact hrest (List.infix_cons h)

end Value

/-- A name in the extended form is read as it was given, and the file that it names is
returned. -/
theorem fileName?_extended (t language encoded further : Text)
    (hencoded : Percent.Spells (Utf8.encode t) encoded)
    (hmark : '\'' ∉ language) (hsemicolon : ';' ∉ language)
    (hlanguage : ¬ "filename=".toList <:+: language)
    (hfurther : further = [] ∨ ∃ rest, further = ';' :: rest)
    (hrest : ¬ "filename=".toList <:+: further) :
    fileName? ("attachment; filename*=".toList ++
        (writeExtended language encoded ++ further)) "filename".toList =
      fileNamed? t := by
  have hnone := not_isInfix_extended hencoded hlanguage hfurther hrest
  have hquoted : quoted? ("attachment; filename*=".toList ++
      (writeExtended language encoded ++ further)) "filename".toList = none := by
    rw [quoted?, between?_eq_none]
    · rfl
    · exact fun h => hnone ((List.prefix_append "filename=".toList ['"']).isInfix.trans h)
  have htrailing : trailing? ("attachment; filename*=".toList ++
      (writeExtended language encoded ++ further)) "filename".toList = none := by
    rw [trailing?, Text.cutAtLast?_eq_none]
    exact hnone
  rw [fileName?, hquoted, htrailing,
    extended?_writeExtended hencoded hmark hsemicolon hfurther, Option.none_or,
    Option.none_or]
  cases hblank : Text.allBlank t with
  | false =>
    rw [unlessBlank?_of_not_blank hblank, Option.bind_some, safeName?_eq_fileNamed?,
      fileNamed?_trim]
  | true =>
    have hempty := Text.trim_eq_nil_iff.mpr hblank
    rw [← fileNamed?_trim, hempty, unlessBlank?, hempty]
    rfl

/-- A name beyond ASCII behind separators and dots that are escaped, before parameters
whose names are not quite the one asked for. -/
theorem fileName?_extended_escapes :
    Percent.Spells (Utf8.encode "../naïve 报告.pdf ".toList)
      "%2E%2E%2Fna%C3%AFve%20%E6%8A%A5%E5%91%8A%2Epdf%20".toList ∧
    ¬ "filename=".toList <:+: "zh-\"Hans\"".toList ∧
    ¬ "filename=".toList <:+: "; Filename=x; filename*=y".toList ∧
    fileName? ("attachment; filename*=".toList ++
      (writeExtended "zh-\"Hans\"".toList
        "%2E%2E%2Fna%C3%AFve%20%E6%8A%A5%E5%91%8A%2Epdf%20".toList ++
          "; Filename=x; filename*=y".toList)) "filename".toList =
      some "naïve 报告.pdf".toList := by
  have hwritten : Percent.writeBytes .alphanumeric
      (Utf8.encode "../naïve 报告.pdf ".toList) =
        "%2E%2E%2Fna%C3%AFve%20%E6%8A%A5%E5%91%8A%2Epdf%20".toList := by
    decide +kernel
  have hencoded := Percent.spells_writeBytes
    (Utf8.encode "../naïve 报告.pdf ".toList)
  rw [hwritten] at hencoded
  have hlanguage : ¬ "filename=".toList <:+: "zh-\"Hans\"".toList := by
    decide +kernel
  have hrest : ¬ "filename=".toList <:+: "; Filename=x; filename*=y".toList := by
    decide +kernel
  refine ⟨hencoded, hlanguage, hrest, ?_⟩
  rw [fileName?_extended _ _ _ _ hencoded (by decide) (by decide) hlanguage
    (.inr ⟨" Filename=x; filename*=y".toList, by decide⟩) hrest]
  decide +kernel

end Disposition

end HttpExchange
