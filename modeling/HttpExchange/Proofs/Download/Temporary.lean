import HttpExchange.Proofs.Download.Destination
import HttpExchange.Proofs.File.Components

/-! Where temporary files lie. There is a destination exactly for the paths that end
in a name, and its final path is the path that was given. The temporary file is
beside it, under a longer name, for the suffixes without a slash and for no others:
a slash in the suffix makes a directory of the name. If nothing that counts follows
the slash, then the temporary path is even a spelling of the final one. -/

namespace HttpExchange.Destination

variable {final : Path} {suffix name : Text}

theorem ofPath_of_fileName? (h : Path.fileName? final = some name) :
    ofPath final suffix =
      .ok ⟨final, Path.withFileName final (name ++ suffixFor suffix)⟩ := by
  rw [ofPath, h]
  rfl

theorem ofPath_eq_error_iff {error : BodyError} :
    ofPath final suffix = .error error ↔
      error = .notAFile final ∧ Path.fileName? final = none := by
  cases h : Path.fileName? final with
  | none =>
    rw [ofPath, h]
    constructor
    · rintro ⟨rfl⟩
      exact ⟨rfl, rfl⟩
    · rintro ⟨rfl, -⟩
      rfl
  | some name =>
    rw [ofPath_of_fileName? h]
    constructor
    · intro heq
      cases heq
    · rintro ⟨-, hnone⟩
      cases hnone

theorem suffixFor_of_slash_mem (h : '/' ∈ suffix) : suffixFor suffix = suffix := by
  rw [suffixFor, if_neg]
  intro hempty
  rw [List.isEmpty_iff.mp hempty] at h
  cases h

/-- A slash in the suffix makes a directory of the name and what precedes the
slash. -/
theorem components_temporary (h : Path.fileName? final = some name)
    {before rest : Text} (hbefore : '/' ∉ before) :
    Path.components (Path.withFileName final (name ++ (before ++ '/' :: rest))) =
      ⟨(Path.components final).anchor, Path.above final ++ (name ++ before) ::
        (Text.split '/' rest).filter fun piece => !Path.isNoise piece⟩ := by
  have hlonger := (Path.isName_of_fileName? h).append hbefore
  have hne : Path.withFileName final (name ++ before) ≠ [] := by
    intro hnil
    have hname := Path.fileName?_withFileName h hlonger
    rw [hnil] at hname
    cases hname
  rw [← List.append_assoc, Path.withFileName_append_slash h hlonger,
    Path.components_append_slash hne, Path.components_withFileName h hlonger,
    List.append_assoc]
  rfl

/-- A longer name is not a spelling of the same path. -/
theorem components_temporary_ne (h : Path.fileName? final = some name)
    (hslash : '/' ∉ suffix) :
    Path.components (Path.withFileName final (name ++ suffixFor suffix)) ≠
      Path.components final := by
  have hlonger := (Path.isName_of_fileName? h).append (slash_not_mem_suffixFor hslash)
  rw [Path.components_withFileName h hlonger, Path.components_of_fileName? h]
  intro heq
  simp only [Path.Parts.mk.injEq, true_and, List.append_cancel_left_eq,
    List.cons.injEq, and_true] at heq
  exact suffixFor_ne_nil (List.append_right_eq_self.mp heq)

/-- The temporary path is a spelling of the final one if the suffix is a slash and
nothing after it counts. -/
theorem components_temporary_eq_iff (h : Path.fileName? final = some name) :
    Path.components (Path.withFileName final (name ++ suffixFor suffix)) =
        Path.components final ↔
      ∃ rest, suffix = '/' :: rest ∧
        ∀ piece ∈ Text.split '/' rest, Path.isNoise piece = true := by
  cases hcut : Text.cut? '/' suffix with
  | none =>
    have hslash := Text.cut?_eq_none_iff.mp hcut
    constructor
    · intro heq
      exact absurd heq (components_temporary_ne h hslash)
    · rintro ⟨rest, rfl, -⟩
      exact absurd List.mem_cons_self hslash
  | some cut =>
    obtain ⟨before, rest⟩ := cut
    obtain ⟨rfl, hbefore⟩ := Text.cut?_eq_some hcut
    -- the name up to the slash is the final one only if nothing precedes the slash
    rw [suffixFor_of_slash_mem (by simp), components_temporary h hbefore,
      Path.components_of_fileName? h]
    simp only [Path.Parts.mk.injEq, true_and, List.append_cancel_left_eq,
      List.cons.injEq, List.append_right_eq_self, List.filter_eq_nil_iff]
    constructor
    · rintro ⟨rfl, hnoise⟩
      exact ⟨rest, rfl, fun piece hmem => by simpa using hnoise piece hmem⟩
    · rintro ⟨later, heq, hnoise⟩
      cases before with
      | nil =>
        obtain rfl := (List.cons.inj heq).2
        exact ⟨rfl, fun piece hmem => by simp [hnoise piece hmem]⟩
      | cons c before =>
        obtain rfl := (List.cons.inj heq).1
        exact absurd List.mem_cons_self hbefore

/-- The name followed by the suffix is a name beside the last one if there is no slash
in the suffix, and only then. -/
theorem temporary_beside_iff (h : Path.fileName? final = some name) :
    Path.parent? (Path.withFileName final (name ++ suffixFor suffix)) =
          Path.parent? final ∧
        Path.EndsIn (Path.withFileName final (name ++ suffixFor suffix))
          (name ++ suffixFor suffix) ∧
        Path.components (Path.withFileName final (name ++ suffixFor suffix)) ≠
          Path.components final ↔
      '/' ∉ suffix := by
  constructor
  · rintro ⟨-, hlonger, -⟩ hslash
    rw [suffixFor_of_slash_mem hslash] at hlonger
    have hlast := Path.isName_of_fileName?
      (Path.fileName?_eq_some_iff_endsIn.mpr hlonger)
    exact hlast.noSlash (List.mem_append_right name hslash)
  · intro hslash
    have hlonger := (Path.isName_of_fileName? h).append
      (slash_not_mem_suffixFor hslash)
    have hname := Path.fileName?_withFileName h hlonger
    exact ⟨Path.parent?_withFileName h hlonger,
      Path.fileName?_eq_some_iff_endsIn.mp hname, components_temporary_ne h hslash⟩

/-- The temporary file is beside the final one, under its name and the suffix, if
there is no slash in the suffix, and only then. -/
theorem ofPath_temporary (final : Path) (suffix : Text) :
    (∀ error, ofPath final suffix = .error error ↔
      error = .notAFile final ∧ ¬ ∃ name, Path.EndsIn final name) ∧
    ∀ name, Path.EndsIn final name →
      ∃ d, ofPath final suffix = .ok d ∧ d.final = final ∧
        (Path.parent? d.temporary = Path.parent? final ∧
            Path.EndsIn d.temporary (name ++ suffixFor suffix) ∧
            Path.components d.temporary ≠ Path.components final ↔
          '/' ∉ suffix) ∧
        (Path.components d.temporary = Path.components final ↔
          ∃ rest, suffix = '/' :: rest ∧
            ∀ piece ∈ Text.split '/' rest, Path.isNoise piece = true) := by
  constructor
  · intro error
    rw [ofPath_eq_error_iff, Option.eq_none_iff_forall_not_mem]
    simp only [Option.mem_def, Path.fileName?_eq_some_iff_endsIn, not_exists]
  · intro name hname
    have h := Path.fileName?_eq_some_iff_endsIn.mpr hname
    exact ⟨_, ofPath_of_fileName? h, rfl, temporary_beside_iff h,
      components_temporary_eq_iff h⟩

/-- A name that noise follows and a parent that `..` leads out of. -/
theorem ofPath_temporary_above :
    Path.EndsIn "data/..//report.pdf/.".toList "report.pdf".toList ∧
    '/' ∉ ".part".toList ∧
    ∃ d, ofPath "data/..//report.pdf/.".toList ".part".toList = .ok d ∧
      Path.parent? d.temporary = Path.parent? "data/..//report.pdf/.".toList ∧
      Path.EndsIn d.temporary "report.pdf.part".toList ∧
      Path.components d.temporary ≠
        Path.components "data/..//report.pdf/.".toList := by
  have hname : Path.EndsIn "data/..//report.pdf/.".toList "report.pdf".toList := by
    rw [← Path.fileName?_eq_some_iff_endsIn]
    decide
  have hslash : '/' ∉ ".part".toList := by decide
  obtain ⟨d, hd, -, hbeside, -⟩ := (ofPath_temporary _ ".part".toList).2 _ hname
  exact ⟨hname, hslash, d, hd, hbeside.mpr hslash⟩

/-- A slash in the suffix puts the temporary file elsewhere, or in the place of the
final one. -/
theorem ofPath_slash_in_suffix :
    Path.EndsIn ['a'] ['a'] ∧
    ofPath ['a'] ['/', 'b'] = .ok ⟨['a'], ['a', '/', 'b']⟩ ∧
    Path.parent? ['a', '/', 'b'] ≠ Path.parent? ['a'] ∧
    ofPath ['a'] ['/'] = .ok ⟨['a'], ['a', '/']⟩ ∧
    Path.components ['a', '/'] = Path.components ['a'] := by
  refine ⟨?_, rfl, by decide, rfl, by decide⟩
  rw [← Path.fileName?_eq_some_iff_endsIn]
  decide

end HttpExchange.Destination
