import HttpExchange.Proofs.Http.Disposition
import HttpExchange.Proofs.Text.Search

/-! The quoted form. The value of a parameter is what stands in quotes after the first
place where the name of the parameter, `=` and a quote follow one another; the name is
taken literally, whatever characters it is of. If that value is not blank, nothing
that follows it in the header matters, not even when it turns out to name no file. -/

namespace HttpExchange.Disposition

variable {opening param value before after t : Text}

/-- What precedes the first quote is found if it is on one line. -/
theorem untilQuote?_append (hquote : '"' ∉ value) (hline : '\n' ∉ value) :
    untilQuote? (value ++ '"' :: after) = some value := by
  induction value with
  | nil => rfl
  | cons c rest ih =>
    obtain ⟨hc, hrest⟩ := not_or.mp (mt List.mem_cons.mpr hquote)
    obtain ⟨hbreak, hlines⟩ := not_or.mp (mt List.mem_cons.mpr hline)
    rw [List.cons_append, untilQuote?, if_neg (Ne.symm hc), if_neg (Ne.symm hbreak),
      ih hrest hlines]
    rfl

/-- Where the opening does not stand, the search goes on. -/
theorem between?_cons {c : Char} (h : ¬ opening <+: c :: t) :
    between? opening (c :: t) = between? opening t := by
  rw [between?, if_neg (mt List.isPrefixOf_iff_prefix.mp h)]

/-- The text after the first opening is found if a quote follows it. -/
theorem between?_append (hopening : opening ≠ [])
    (hfirst : Text.FirstAfter opening before)
    (hvalue : untilQuote? after = some value) :
    between? opening (before ++ opening ++ after) = some value := by
  induction before with
  | nil =>
    obtain ⟨c, rest, rfl⟩ := List.exists_cons_of_ne_nil hopening
    have hbegins : (c :: rest).isPrefixOf (c :: (rest ++ after)) = true :=
      List.isPrefixOf_iff_prefix.mpr (List.prefix_append (c :: rest) after)
    rw [List.nil_append, List.cons_append, between?, if_pos hbegins,
      ← List.cons_append, List.drop_left, hvalue]
  | cons c before ih =>
    have hstep := between?_cons (hfirst.not_isPrefix after)
    exact hstep.trans (ih hfirst.tail)

theorem between?_eq_none (h : ¬ opening <:+: t) : between? opening t = none := by
  induction t with
  | nil => rfl
  | cons c rest ih =>
    obtain ⟨hbegins, hrest⟩ := not_or.mp (mt List.infix_cons_iff.mpr h)
    rw [between?_cons hbegins, ih hrest]

theorem unlessBlank?_of_not_blank (h : Text.allBlank t = false) :
    unlessBlank? t = some (Text.trim t) := by
  rw [unlessBlank?, if_neg]
  rw [List.isEmpty_iff, Text.trim_eq_nil_iff, h]
  exact Bool.false_ne_true

/-- A name in quotes that is not blank decides, and what follows it does not
matter. -/
theorem fileName?_of_quoted? (h : between? (param ++ ['=', '"']) t = some value)
    (hblank : Text.allBlank value = false) :
    fileName? t param = fileNamed? (Text.trim value) := by
  have hquoted : quoted? t param = some (Text.trim value) := by
    rw [quoted?, h, Option.bind_some, unlessBlank?_of_not_blank hblank]
  rw [fileName?, hquoted, Option.some_or, Option.bind_some, safeName?_eq_fileNamed?]

/-- The first value in quotes gives the file name, whatever the name of the parameter
is made of and whatever follows the value. -/
theorem fileName?_quoted (param before value after : Text)
    (hfirst : Text.FirstAfter (param ++ ['=', '"']) before)
    (hblank : Text.allBlank value = false)
    (hquote : '"' ∉ value) (hline : '\n' ∉ value) :
    fileName? (before ++ (param ++ ['=', '"']) ++ value ++ '"' :: after) param =
      fileNamed? (Text.trim value) := by
  refine fileName?_of_quoted? ?_ hblank
  rw [List.append_assoc]
  exact between?_append (by simp) hfirst (untilQuote?_append hquote hline)

/-- A parameter whose name is no pattern, after beginnings of it; a value that names
no file, before values that do. -/
theorem fileName?_quoted_literally :
    let param := "f.*(".toList
    let before := "a; f.*(=f.*(; fx*(=\"x\"; f.*".toList
    Text.FirstAfter (param ++ ['=', '"']) before ∧
    Text.allBlank " dir/.. ".toList = false ∧
    fileName? (before ++ (param ++ ['=', '"']) ++ " dir/.. ".toList ++
      '"' :: "; f.*(=\"b\"; f.*(*=utf-8\x27\x27c; f.*(=d".toList) param = none := by
  intro param before
  have hfirst : Text.FirstAfter (param ++ ['=', '"']) before :=
    Text.firstAfter_of_not_isInfix (by decide +kernel)
  have hblank : Text.allBlank " dir/.. ".toList = false := by decide
  refine ⟨hfirst, hblank, ?_⟩
  rw [fileName?_quoted param before _ _ hfirst hblank (by decide) (by decide)]
  decide +kernel

end HttpExchange.Disposition
