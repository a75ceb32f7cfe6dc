import HttpExchange.Text.Basic

/-! Searching a text for another one. A search that finds nothing has missed nothing.
Where the needle holds no separator it lies within one piece of the text between the
separators, and where it ends at its only separator it lies at the end of one. A
needle that occurs nowhere before is found where it stands. -/

namespace HttpExchange.Text

variable {needle key before after t rest : Text} {sep : Char}

/-! ## Needles without a separator -/

theorem isPrefix_of_append_cons (hsep : sep ∉ needle)
    (h : needle <+: before ++ sep :: after) : needle <+: before := by
  rcases List.prefix_or_prefix_of_prefix h (List.prefix_append before _) with
    hneedle | ⟨more, rfl⟩
  · exact hneedle
  · cases more with
    | nil => simp
    | cons c more =>
      obtain ⟨rest, heq⟩ := (List.prefix_append_right_inj before).mp h
      obtain ⟨rfl, -⟩ := List.cons.inj heq
      simp at hsep

theorem isSuffix_of_append_cons (hsep : sep ∉ needle)
    (h : needle <:+ before ++ sep :: after) : needle <:+ after := by
  rw [← List.reverse_prefix] at h ⊢
  rw [List.reverse_append, List.reverse_cons, List.append_assoc,
    List.singleton_append] at h
  exact isPrefix_of_append_cons (by simpa using hsep) h

/-- A needle without separators lies on one side of each of them. -/
theorem isInfix_of_append_cons (hsep : sep ∉ needle)
    (h : needle <:+: before ++ sep :: after) :
    needle <:+: before ∨ needle <:+: after := by
  induction before with
  | nil =>
    rcases List.infix_cons_iff.mp h with h | h
    · exact .inl (isPrefix_of_append_cons hsep (show needle <+: [] ++ _ from h)).isInfix
    · exact .inr h
  | cons c before ih =>
    rcases List.infix_cons_iff.mp h with h | h
    · exact .inl (isPrefix_of_append_cons hsep
        (show needle <+: (c :: before) ++ _ from h)).isInfix
    · exact (ih h).imp_left List.infix_cons

/-! ## Needles with one separator -/

/-- A key with its separator stands before a text only as the whole piece before
the first separator. -/
theorem key_isPrefix_iff (hkey : sep ∉ key) (hbefore : sep ∉ before) :
    key ++ sep :: rest <+: before ++ sep :: after ↔
      key = before ∧ rest <+: after := by
  constructor
  · rintro ⟨more, heq⟩
    have hcut := congrArg (cut? sep) heq
    rw [List.append_assoc, List.cons_append, cut?_append hkey,
      cut?_append hbefore] at hcut
    cases hcut
    exact ⟨rfl, List.prefix_append rest more⟩
  · rintro ⟨rfl, more, rfl⟩
    exact ⟨more, by simp⟩

/-- A key with its separator occurs at the end of the piece before the first
separator, or after that. -/
theorem key_isInfix (hkey : sep ∉ key) (hbefore : sep ∉ before)
    (h : key ++ [sep] <:+: before ++ sep :: after) :
    key <:+ before ∨ key ++ [sep] <:+: after := by
  induction before with
  | nil =>
    rcases List.infix_cons_iff.mp h with h | h
    · obtain ⟨rfl, -⟩ := (key_isPrefix_iff hkey hbefore).mp h
      exact .inl (List.suffix_refl _)
    · exact .inr h
  | cons c before ih =>
    rcases List.infix_cons_iff.mp h with h | h
    · obtain ⟨rfl, -⟩ := (key_isPrefix_iff hkey hbefore).mp h
      exact .inl (List.suffix_refl _)
    · have hrest : sep ∉ before := fun hmem => hbefore (List.mem_cons_of_mem c hmem)
      exact (ih hrest h).imp_left fun hsuffix =>
        hsuffix.trans (List.suffix_cons c before)

/-! ## Where a search ends -/

/-- The empty needle occurs everywhere. -/
theorem ne_empty_of_not_isInfix (h : ¬ needle <:+: t) : ¬ needle.isEmpty := by
  intro hempty
  rw [List.isEmpty_iff.mp hempty] at h
  exact h List.nil_infix

theorem cutAt?_eq_none_iff : cutAt? needle t = none ↔ ¬ needle <:+: t := by
  induction t with
  | nil => cases needle <;> simp [cutAt?]
  | cons c rest ih =>
    rw [cutAt?, List.infix_cons_iff, not_or, ← ih, ← List.isPrefixOf_iff_prefix]
    split
    · next hbegins => simp [hbegins]
    · next hbegins => simp [hbegins]

/-- A needle is found just when it is there. -/
theorem hasInfix_iff : hasInfix needle t = true ↔ needle <:+: t := by
  rw [hasInfix, Option.isSome_iff_ne_none, Ne, cutAt?_eq_none_iff]
  exact Decidable.not_not

theorem cutAtLast?_eq_none (h : ¬ needle <:+: t) : cutAtLast? needle t = none := by
  induction t with
  | nil => rw [cutAtLast?, if_neg (ne_empty_of_not_isInfix h)]
  | cons c rest ih =>
    obtain ⟨hbegins, hrest⟩ := not_or.mp (mt List.infix_cons_iff.mpr h)
    rw [cutAtLast?, ih hrest]
    exact if_neg (mt List.isPrefixOf_iff_prefix.mp hbegins)

/-- In `before ++ needle` the needle occurs only at the end. -/
def FirstAfter (needle before : Text) : Prop :=
  ∀ start rest, before ++ needle = start ++ needle ++ rest → rest = []

theorem FirstAfter.tail {c : Char} (h : FirstAfter needle (c :: before)) :
    FirstAfter needle before := by
  intro start rest heq
  exact h (c :: start) rest (congrArg (c :: ·) heq)

/-- Whatever follows, the needle does not begin any earlier. -/
theorem FirstAfter.not_isPrefix {c : Char} (h : FirstAfter needle (c :: before))
    (after : Text) : ¬ needle <+: c :: before ++ needle ++ after := by
  intro hbegins
  obtain ⟨rest, heq⟩ := List.prefix_of_prefix_length_le hbegins
    (List.prefix_append (c :: before ++ needle) after) (by simp; omega)
  obtain rfl := h [] rest heq.symm
  have hlength := congrArg List.length heq
  simp at hlength
  omega

theorem firstAfter_of_not_isInfix
    (h : ¬ needle <:+: (before ++ needle).dropLast) : FirstAfter needle before := by
  intro start rest heq
  by_cases hrest : rest = []
  · exact hrest
  · rw [heq, List.dropLast_append_of_ne_nil hrest] at h
    exact absurd ⟨start, rest.dropLast, rfl⟩ h

/-- A needle with one separator is the first one after a text that has none. -/
theorem firstAfter_of_not_mem (hkey : sep ∉ key) (hrest : sep ∉ rest)
    (hbefore : sep ∉ before) : FirstAfter (key ++ sep :: rest) before := by
  intro start more heq
  have hstart : sep ∉ start := by
    rw [← List.count_eq_zero]
    have hcount := congrArg (List.count sep) heq
    simp only [List.count_append, List.count_cons_self, List.count_eq_zero.mpr hkey,
      List.count_eq_zero.mpr hrest, List.count_eq_zero.mpr hbefore] at hcount
    omega
  have hcut := congrArg (cut? sep) heq
  rw [← List.append_assoc, cut?_append (by simp [hbefore, hkey]),
    ← List.append_assoc, List.append_assoc, List.cons_append,
    cut?_append (by simp [hstart, hkey])] at hcut
  simp only [Option.some.injEq, Prod.mk.injEq] at hcut
  exact List.self_eq_append_right.mp hcut.2

end HttpExchange.Text
