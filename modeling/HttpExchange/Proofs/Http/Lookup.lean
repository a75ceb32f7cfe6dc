import HttpExchange.Proofs.Http.Quoted
import Mathlib.Data.List.Nodup

/-! Looking up a parameter in a header that is well formed. The lookup searches for
the name of the parameter as text, and so finds it at the end of a longer name too.
What it returns is the value of the first parameter whose name ends in the one asked
for. This is the parameter asked for unless one with a longer name precedes it, or it
is missing. -/

namespace HttpExchange.Disposition

/-! ## Well-formed headers -/

/-- A parameter in the quoted form. -/
structure QuotedParameter where
  name : Text
  value : Text
  deriving DecidableEq, Repr

namespace QuotedParameter

/-- The parameter as it stands in a header. -/
def write (x : QuotedParameter) : Text :=
  [';', ' '] ++ x.name ++ ['=', '"'] ++ x.value ++ ['"']

/-- A name of letters and a value that can stand in quotes and names a file. -/
structure IsPlain (x : QuotedParameter) : Prop where
  name : ∀ c ∈ x.name, c.isAlpha = true
  notBlank : Text.allBlank x.value = false
  noQuote : '"' ∉ x.value
  noEquals : '=' ∉ x.value
  noBreak : '\n' ∉ x.value
  noSlash : '/' ∉ x.value
  noBackslash : '\\' ∉ x.value
  notHere : Text.trim x.value ≠ ['.']
  notAbove : Text.trim x.value ≠ ['.', '.']

end QuotedParameter

/-- The header of a type and parameters. -/
def writeHeader (type : Text) (params : List QuotedParameter) : Text :=
  type ++ params.flatMap QuotedParameter.write

/-- The first parameter whose name ends in `param`. -/
def endingIn? (param : Text) (params : List QuotedParameter) :
    Option QuotedParameter :=
  params.find? fun x => param.isSuffixOf x.name

/-- The answer is the value of the parameter that is named `param`, and nothing if
there is none. -/
def AnswersTo (answer : Option Text) (param : Text)
    (params : List QuotedParameter) : Prop :=
  (∀ x ∈ params, x.name = param → answer = some (Text.trim x.value)) ∧
    ((∀ x ∈ params, x.name ≠ param) → answer = none)

variable {type param key lead before after rest : Text} {x : QuotedParameter}
  {params : List QuotedParameter}

theorem not_mem_of_isAlpha {c : Char} {name : Text} (hc : c.isAlpha = false)
    (h : ∀ c ∈ name, c.isAlpha = true) : c ∉ name := by
  intro hmem
  rw [h c hmem] at hc
  cases hc

theorem endingIn?_eq_none_iff :
    endingIn? param params = none ↔ ∀ x ∈ params, ¬ param <:+ x.name := by
  simp only [endingIn?, List.find?_eq_none, List.isSuffixOf_iff_suffix]

/-- A value that can stand in quotes is the file that it names. -/
theorem QuotedParameter.IsPlain.fileNamed? (h : x.IsPlain) :
    Disposition.fileNamed? (Text.trim x.value) = some (Text.trim x.value) := by
  have hnone : ∀ c ∈ x.value, isSeparator c = false := by
    intro c hc
    rw [isSeparator, Bool.or_eq_false_iff, decide_eq_false_iff_not,
      decide_eq_false_iff_not]
    exact ⟨fun heq => h.noSlash (heq ▸ hc), fun heq => h.noBackslash (heq ▸ hc)⟩
  have hwhole : lastComponent x.value = x.value :=
    lastComponent_append_right (t := []) hnone
  have hpiece : finalPiece (Text.trim x.value) = Text.trim x.value := by
    rw [finalPiece_eq, trim_lastComponent_trim, hwhole]
  have hne : Text.trim x.value ≠ [] := by
    rw [ne_eq, Text.trim_eq_nil_iff, h.notBlank]
    exact Bool.false_ne_true
  rw [Disposition.fileNamed?, hpiece, if_neg]
  simp only [List.mem_cons, List.not_mem_nil, or_false, not_or]
  exact ⟨hne, h.notHere, h.notAbove⟩

/-! ## Where a key occurs in a header -/

/-- A header up to the value of its first parameter. -/
theorem append_flatMap_write (lead : Text) (x : QuotedParameter)
    (params : List QuotedParameter) :
    lead ++ (x :: params).flatMap QuotedParameter.write =
      (lead ++ ';' :: ' ' :: x.name) ++ '=' ::
        (('"' :: x.value ++ ['"']) ++ params.flatMap QuotedParameter.write) := by
  simp [QuotedParameter.write]

/-- A key that holds no space stands at the end of what precedes a value only if it
stands at the end of the name. -/
theorem isSuffix_name (hspace : ' ' ∉ key)
    (h : key <:+ lead ++ ';' :: ' ' :: x.name) : key <:+ x.name := by
  rw [← List.singleton_append, ← List.append_assoc] at h
  exact Text.isSuffix_of_append_cons hspace h

/-- A key with `=` is not found at the end of a piece that does not end in it. -/
theorem between?_skip (hkey : '=' ∉ key) (hbefore : '=' ∉ before)
    (hends : ¬ key <:+ before) :
    between? (key ++ '=' :: rest) (before ++ '=' :: after) =
      between? (key ++ '=' :: rest) after := by
  induction before with
  | nil =>
    refine between?_cons fun hbegins => hends ?_
    obtain ⟨rfl, -⟩ := (Text.key_isPrefix_iff hkey hbefore).mp hbegins
    exact List.suffix_refl _
  | cons c before ih =>
    have hbegins : ¬ key ++ '=' :: rest <+: c :: before ++ '=' :: after := by
      intro hbegins
      obtain ⟨rfl, -⟩ := (Text.key_isPrefix_iff hkey hbefore).mp hbegins
      exact hends (List.suffix_refl _)
    have hstep := between?_cons hbegins
    refine hstep.trans (ih (fun hmem => hbefore (List.mem_cons_of_mem c hmem)) ?_)
    exact fun hsuffix => hends (hsuffix.trans (List.suffix_cons c before))

section Lead

variable (hparams : ∀ x ∈ params, x.IsPlain) (hlead : '=' ∉ lead)

include hparams hlead

/-- A key with `=` occurs in a header only at the end of a name. -/
theorem exists_of_isInfix (hkey : '=' ∉ key) (hspace : ' ' ∉ key)
    (h : key ++ ['='] <:+: lead ++ params.flatMap QuotedParameter.write) :
    ∃ x ∈ params, key <:+ x.name := by
  induction params generalizing lead with
  | nil =>
    rw [List.flatMap_nil, List.append_nil] at h
    exact absurd (h.subset (by simp)) hlead
  | cons x params ih =>
    obtain ⟨hx, hrest⟩ := List.forall_mem_cons.mp hparams
    have hname : '=' ∉ x.name := not_mem_of_isAlpha (by decide) hx.name
    rw [append_flatMap_write] at h
    rcases Text.key_isInfix hkey (by simp [hlead, hname]) h with h | h
    · exact ⟨x, List.mem_cons_self, isSuffix_name hspace h⟩
    · obtain ⟨y, hy, hends⟩ := ih hrest (by simp [hx.noEquals]) h
      exact ⟨y, List.mem_cons_of_mem x hy, hends⟩

/-- The first value in quotes that is found is that of the first parameter whose name
ends in `param`. -/
theorem between?_write (hparam : ∀ c ∈ param, c.isAlpha = true) :
    between? (param ++ ['=', '"'])
        (lead ++ params.flatMap QuotedParameter.write) =
      (endingIn? param params).map QuotedParameter.value := by
  have hkey : '=' ∉ param := not_mem_of_isAlpha (by decide) hparam
  have hspace : ' ' ∉ param := not_mem_of_isAlpha (by decide) hparam
  induction params generalizing lead with
  | nil =>
    refine between?_eq_none fun h => ?_
    rw [List.flatMap_nil, List.append_nil] at h
    exact absurd (h.subset (by simp)) hlead
  | cons x params ih =>
    obtain ⟨hx, hrest⟩ := List.forall_mem_cons.mp hparams
    have hname : '=' ∉ x.name := not_mem_of_isAlpha (by decide) hx.name
    rw [append_flatMap_write, endingIn?, List.find?_cons]
    by_cases hends : param <:+ x.name
    · rw [List.isSuffixOf_iff_suffix.mpr hends]
      obtain ⟨start, hstart⟩ := hends
      have hvalue : untilQuote?
          (x.value ++ '"' :: params.flatMap QuotedParameter.write) = some x.value :=
        untilQuote?_append hx.noQuote hx.noBreak
      have hfirst : Text.FirstAfter (param ++ ['=', '"'])
          (lead ++ ';' :: ' ' :: start) := by
        have hstart_name : '=' ∉ start := fun hmem =>
          hname (hstart ▸ List.mem_append_left param hmem)
        exact Text.firstAfter_of_not_mem hkey (by decide)
          (by simp [hlead, hstart_name])
      -- the opening begins within the name, after what precedes its ending
      have hfound := between?_append (by simp) hfirst hvalue
      rw [← hstart]
      simpa using hfound
    · rw [Bool.eq_false_iff.mpr (mt List.isSuffixOf_iff_suffix.mp hends),
        between?_skip hkey (by simp [hlead, hname]) (mt (isSuffix_name hspace) hends)]
      exact ih hrest (by simp [hx.noEquals])

/-- If no name ends in `param`, then nothing follows it. -/
theorem trailing?_write (hparam : ∀ c ∈ param, c.isAlpha = true)
    (hnone : endingIn? param params = none) :
    trailing? (lead ++ params.flatMap QuotedParameter.write) param = none := by
  rw [trailing?, Text.cutAtLast?_eq_none]
  intro h
  obtain ⟨x, hx, hends⟩ := exists_of_isInfix hparams hlead
    (not_mem_of_isAlpha (by decide) hparam) (not_mem_of_isAlpha (by decide) hparam) h
  exact endingIn?_eq_none_iff.mp hnone x hx hends

/-- No value is in the extended form, since names are of letters. -/
theorem extended?_write (hparam : ∀ c ∈ param, c.isAlpha = true) :
    extended? (lead ++ params.flatMap QuotedParameter.write) param = none := by
  have hequals : '=' ∉ param := not_mem_of_isAlpha (by decide) hparam
  have hspace : ' ' ∉ param := not_mem_of_isAlpha (by decide) hparam
  rw [extended?, Text.cutAt?_eq_none_iff.mpr]
  intro h
  rw [List.append_cons] at h
  obtain ⟨x, hx, hends⟩ := exists_of_isInfix hparams hlead
    (by simp [hequals]) (by simp [hspace]) h
  have hstar : '*' ∉ x.name := not_mem_of_isAlpha (by decide) (hparams x hx).name
  exact hstar (hends.subset (by simp))

end Lead

/-! ## What is found -/

/-- A name ends in itself, so something is found for it. -/
theorem isSome_endingIn? (h : x ∈ params) :
    (endingIn? x.name params).isSome = true := by
  rw [endingIn?, List.find?_isSome]
  exact ⟨x, h, List.isSuffixOf_iff_suffix.mpr (List.suffix_refl _)⟩

/-- The first parameter whose name ends in `param` answers if it has the value of the
one that is named `param`. -/
theorem answersTo_endingIn?_iff (hnames : (params.map QuotedParameter.name).Nodup) :
    AnswersTo ((endingIn? param params).map fun x => Text.trim x.value) param params ↔
      ∀ x, endingIn? param params = some x →
        ∃ y ∈ params, y.name = param ∧ Text.trim y.value = Text.trim x.value := by
  constructor
  · rintro ⟨hvalue, hmissing⟩ x hfound
    rw [hfound, Option.map_some] at hvalue hmissing
    by_cases hnamed : ∃ y ∈ params, y.name = param
    · obtain ⟨y, hy, hname⟩ := hnamed
      exact ⟨y, hy, hname, (Option.some.inj (hvalue y hy hname)).symm⟩
    · cases hmissing fun y hy hname => hnamed ⟨y, hy, hname⟩
  · intro hfirst
    constructor
    · rintro x hx rfl
      obtain ⟨z, hz⟩ := Option.isSome_iff_exists.mp (isSome_endingIn? hx)
      obtain ⟨y, hy, hname, hvalue⟩ := hfirst z hz
      -- names are distinct, so the parameter that gives the value is the one asked for
      obtain rfl := List.inj_on_of_nodup_map hnames hy hx hname
      rw [hz, Option.map_some, hvalue]
    · intro hmissing
      cases hfound : endingIn? param params with
      | none => rfl
      | some z =>
        obtain ⟨y, hy, hname, -⟩ := hfirst z hfound
        exact absurd hname (hmissing y hy)

section Header

variable (htype : '=' ∉ type) (hparams : ∀ x ∈ params, x.IsPlain)
  (hparam : ∀ c ∈ param, c.isAlpha = true)

include htype hparams hparam

/-- The value found is that of the first parameter whose name ends in the one asked
for. -/
theorem fileName?_eq_endingIn? :
    fileName? (writeHeader type params) param =
      (endingIn? param params).map fun x => Text.trim x.value := by
  have hbetween := between?_write hparams htype hparam
  cases hfound : endingIn? param params with
  | some x =>
    have hx := hparams x (List.mem_of_find?_eq_some hfound)
    rw [hfound] at hbetween
    rw [writeHeader, fileName?_of_quoted? hbetween hx.notBlank, hx.fileNamed?]
    rfl
  | none =>
    have hquoted : quoted? (writeHeader type params) param = none := by
      rw [quoted?, writeHeader, hbetween, hfound]
      rfl
    rw [fileName?, hquoted, writeHeader,
      trailing?_write hparams htype hparam hfound, extended?_write hparams htype hparam]
    rfl

/-- The lookup answers with the value of the parameter asked for if the first
parameter whose name ends in the one asked for is that parameter or has the same
value, and only then. -/
theorem fileName?_answersTo_iff (hnames : (params.map QuotedParameter.name).Nodup) :
    fileName? (writeHeader type params) param =
        (endingIn? param params).map (fun x => Text.trim x.value) ∧
      (AnswersTo (fileName? (writeHeader type params) param) param params ↔
        ∀ x, endingIn? param params = some x →
          ∃ y ∈ params, y.name = param ∧ Text.trim y.value = Text.trim x.value) := by
  have hanswer := fileName?_eq_endingIn? htype hparams hparam
  refine ⟨hanswer, ?_⟩
  rw [hanswer]
  exact answersTo_endingIn?_iff hnames

end Header

/-- A name before a longer one that ends in it, and values with spaces and
semicolons. -/
theorem fileName?_answersTo_name :
    let params : List QuotedParameter :=
      [⟨"name".toList, " up; load ".toList⟩, ⟨"filename".toList, "x*.bin".toList⟩]
    writeHeader "form-data".toList params =
      "form-data; name=\" up; load \"; filename=\"x*.bin\"".toList ∧
    AnswersTo (fileName? (writeHeader "form-data".toList params) "name".toList)
      "name".toList params ∧
    fileName? (writeHeader "form-data".toList params) "name".toList =
      some "up; load".toList := by
  intro params
  have htype : '=' ∉ "form-data".toList := by decide
  have hplain : ∀ x ∈ params, x.IsPlain := by
    refine List.forall_mem_cons.mpr ⟨?_, List.forall_mem_singleton.mpr ?_⟩
    · exact ⟨List.all_eq_true.mp rfl, by decide, by decide, by decide, by decide,
        by decide, by decide, by decide, by decide⟩
    · exact ⟨List.all_eq_true.mp rfl, by decide, by decide, by decide, by decide,
        by decide, by decide, by decide, by decide⟩
  have hparam : ∀ c ∈ "name".toList, c.isAlpha = true := List.all_eq_true.mp rfl
  have hnames : (params.map QuotedParameter.name).Nodup := by decide
  obtain ⟨hanswer, hiff⟩ := fileName?_answersTo_iff htype hplain hparam hnames
  refine ⟨by decide, hiff.mpr ?_, hanswer⟩
  intro x hx
  cases hx
  exact ⟨_, List.mem_cons_self, rfl, rfl⟩

/-- A longer name that ends in the one asked for is taken for it, whether that follows
or is missing. -/
theorem fileName?_longer_name :
    fileName? (writeHeader "form-data".toList
        [⟨"filename".toList, "x.bin".toList⟩, ⟨"name".toList, "upload".toList⟩])
      "name".toList = some "x.bin".toList ∧
    fileName? (writeHeader "form-data".toList
      [⟨"filename".toList, "x.bin".toList⟩]) "name".toList = some "x.bin".toList := by
  decide +kernel

end HttpExchange.Disposition
