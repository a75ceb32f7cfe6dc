import HttpExchange.Http.Disposition
import HttpExchange.Proofs.File.Path

/-! File names from headers. Wherever in a header a name is found, and whatever
escapes and charsets it went through, what is returned has been cut at its last
separator and trimmed after that, and the special names have been refused. So it
is the name of an entry of a directory and nothing else. White space around what was
found does not matter, since it is never a separator and the last component is
trimmed in any case. -/

namespace HttpExchange

/-! ## Trimmed text -/

namespace Text

variable {p : Char → Bool} {t u : Text} {c : Char}

theorem isPrefix_dropEndWhile (p : Char → Bool) (t : Text) :
    dropEndWhile p t <+: t := by
  rw [dropEndWhile, ← List.reverse_suffix, List.reverse_reverse]
  exact List.dropWhile_suffix _

theorem mem_of_mem_trimBy (h : c ∈ trimBy p t) : c ∈ t := by
  have hkept := (isPrefix_dropEndWhile p (t.dropWhile p)).subset h
  exact (List.dropWhile_suffix p).subset hkept

/-- What is trimmed does not begin with a character to trim. -/
theorem head?_trimBy (h : (trimBy p t).head? = some c) : p c = false := by
  obtain ⟨dropped, hdropped⟩ := isPrefix_dropEndWhile p (t.dropWhile p)
  have hkept := List.head?_dropWhile_not p t
  rw [trimBy] at h
  rw [← hdropped, List.head?_append, h] at hkept
  exact hkept

/-- What is trimmed does not end with a character to trim. -/
theorem getLast?_trimBy (h : (trimBy p t).getLast? = some c) : p c = false := by
  rw [trimBy, dropEndWhile, List.getLast?_reverse] at h
  have hkept := List.head?_dropWhile_not p (t.dropWhile p).reverse
  rw [h] at hkept
  exact hkept

theorem dropWhile_eq_self (h : ∀ c, t.head? = some c → p c = false) :
    t.dropWhile p = t := by
  cases t with
  | nil => rfl
  | cons c rest => exact List.dropWhile_cons_of_neg (by simp [h c rfl])

/-- A text stays as it is if it neither begins nor ends with a character to
trim. -/
theorem trimBy_eq_self (hhead : ∀ c, t.head? = some c → p c = false)
    (hlast : ∀ c, t.getLast? = some c → p c = false) : trimBy p t = t := by
  rw [trimBy, dropWhile_eq_self hhead, dropEndWhile,
    dropWhile_eq_self (by simpa using hlast), List.reverse_reverse]

/-- Nothing but characters to trim is taken off. -/
theorem eq_append_trimBy (p : Char → Bool) (t : Text) :
    ∃ start stop, t = start ++ trimBy p t ++ stop ∧
      (∀ c ∈ start, p c = true) ∧ ∀ c ∈ stop, p c = true := by
  refine ⟨t.takeWhile p, ((t.dropWhile p).reverse.takeWhile p).reverse, ?_, ?_, ?_⟩
  · rw [trimBy, dropEndWhile, List.append_assoc, ← List.reverse_append,
      List.takeWhile_append_dropWhile, List.reverse_reverse,
      List.takeWhile_append_dropWhile]
  · exact List.all_eq_true.mp List.all_takeWhile
  · intro c hc
    exact List.all_eq_true.mp List.all_takeWhile c (List.mem_reverse.mp hc)

theorem trimBy_append_left (h : ∀ c ∈ u, p c = true) :
    trimBy p (u ++ t) = trimBy p t := by
  rw [trimBy, List.dropWhile_append_of_pos h, trimBy]

theorem trimBy_append_right (h : ∀ c ∈ u, p c = true) :
    trimBy p (t ++ u) = trimBy p t := by
  rw [trimBy, List.dropWhile_append]
  split
  · next hnil =>
    rw [trimBy, List.isEmpty_iff.mp hnil, dropWhile_eq_nil.mpr h]
  · rw [dropEndWhile, List.reverse_append,
      List.dropWhile_append_of_pos (by simpa using h)]
    rfl

end Text

namespace Disposition

/-! ## Names that are returned -/

/-- A name of a file and no more: no separator is in it, it is not one of the
special names, and there is no white space around it. -/
structure IsPlainName (name : Text) : Prop where
  ne_nil : name ≠ []
  noSlash : '/' ∉ name
  noBackslash : '\\' ∉ name
  notHere : name ≠ ['.']
  notAbove : name ≠ ['.', '.']
  begins : ∀ c, name.head? = some c → Text.isBlank c = false
  ends : ∀ c, name.getLast? = some c → Text.isBlank c = false

theorem IsPlainName.isName {name : Text} (h : IsPlainName name) :
    Path.IsName name where
  noSlash := h.noSlash
  counts := by simp [Path.isNoise, h.ne_nil, h.notHere]
  notAbove := h.notAbove

/-- No separator is in the last component. -/
theorem isSeparator_of_mem_lastComponent {found : Text} {c : Char}
    (h : c ∈ lastComponent found) : isSeparator c = false := by
  rw [lastComponent, List.mem_reverse] at h
  simpa using List.all_eq_true.mp List.all_takeWhile c h

/-! ## The last component -/

section LastComponent

variable {t u : Text}

/-- What stands before the last component is nothing or ends with a separator. -/
theorem eq_append_lastComponent (t : Text) :
    t = lastComponent t ∨ ∃ start c,
      t = start ++ c :: lastComponent t ∧ isSeparator c = true := by
  have hsplit : t = (t.reverse.dropWhile fun c => !isSeparator c).reverse ++
      lastComponent t := by
    rw [lastComponent, ← List.reverse_append, List.takeWhile_append_dropWhile,
      List.reverse_reverse]
  have hhead := List.head?_dropWhile_not (fun c => !isSeparator c) t.reverse
  cases hstart : t.reverse.dropWhile fun c => !isSeparator c with
  | nil =>
    rw [hstart] at hsplit
    exact .inl hsplit
  | cons c rest =>
    rw [hstart] at hsplit hhead
    rw [List.reverse_cons, List.append_assoc, List.singleton_append] at hsplit
    exact .inr ⟨rest.reverse, c, hsplit, by simpa using hhead⟩

/-- The last component is the last piece between the separators. -/
theorem getLast?_splitOnP (t : Text) :
    (t.splitOnP isSeparator).getLast? = some (lastComponent t) := by
  have hone : (lastComponent t).splitOnP isSeparator = [lastComponent t] :=
    List.splitOnP_eq_singleton fun _ => isSeparator_of_mem_lastComponent
  rcases eq_append_lastComponent t with heq | ⟨start, c, heq, hc⟩
  · rw [← heq] at hone
    rw [hone, List.getLast?_singleton, ← heq]
  · rw [heq, List.splitOnP_append_cons start _ hc, hone, ← heq]
    exact List.getLast?_concat

theorem isSeparator_of_isBlank {c : Char} (h : Text.isBlank c = true) :
    isSeparator c = false := by
  rw [isSeparator, Bool.or_eq_false_iff, decide_eq_false_iff_not,
    decide_eq_false_iff_not]
  constructor
  · rintro rfl
    cases h
  · rintro rfl
    cases h

theorem lastComponent_append_right (h : ∀ c ∈ u, isSeparator c = false) :
    lastComponent (t ++ u) = lastComponent t ++ u := by
  rw [lastComponent, List.reverse_append, List.takeWhile_append_of_pos]
  · rw [List.reverse_append, List.reverse_reverse, lastComponent]
  · intro c hc
    simp [h c (List.mem_reverse.mp hc)]

theorem lastComponent_append_left :
    lastComponent (u ++ t) = lastComponent t ∨
      lastComponent (u ++ t) = lastComponent u ++ t ∧ lastComponent t = t := by
  rw [lastComponent, List.reverse_append, List.takeWhile_append]
  split
  · next hall =>
    refine .inr ⟨by simp [lastComponent], ?_⟩
    have hwhole := (List.takeWhile_prefix fun c => !isSeparator c).eq_of_length hall
    rw [lastComponent, hwhole, List.reverse_reverse]
  · exact .inl rfl

/-- White space around a text does not change its last component, but for white space
around that. -/
theorem trim_lastComponent_append {start stop : Text}
    (hstart : ∀ c ∈ start, Text.isBlank c = true)
    (hstop : ∀ c ∈ stop, Text.isBlank c = true) :
    Text.trim (lastComponent (start ++ t ++ stop)) =
      Text.trim (lastComponent t) := by
  rw [lastComponent_append_right fun c hc => isSeparator_of_isBlank (hstop c hc),
    Text.trim, Text.trimBy_append_right hstop]
  rcases lastComponent_append_left (u := start) (t := t) with h | ⟨h, hwhole⟩
  · rw [h, Text.trim]
  · have hblank : ∀ c ∈ lastComponent start, Text.isBlank c = true := by
      intro c hc
      rw [lastComponent, List.mem_reverse] at hc
      exact hstart c (List.mem_reverse.mp ((List.takeWhile_prefix _).subset hc))
    rw [h, Text.trimBy_append_left hblank, hwhole, Text.trim]

theorem trim_lastComponent_trim (t : Text) :
    Text.trim (lastComponent (Text.trim t)) = Text.trim (lastComponent t) := by
  obtain ⟨start, stop, heq, hstart, hstop⟩ := Text.eq_append_trimBy Text.isBlank t
  change t = start ++ Text.trim t ++ stop at heq
  have h := trim_lastComponent_append (t := Text.trim t) hstart hstop
  rw [← heq] at h
  exact h.symm

end LastComponent

/-- The last of the pieces of a text between separators, without white space around
it. -/
def finalPiece (t : Text) : Text :=
  Text.trim ((t.splitOnP isSeparator).getLastD [])

/-- The file that a text names by its final piece, if that is not empty and not one
of the special names. -/
def fileNamed? (t : Text) : Option Text :=
  if finalPiece t ∈ [[], ['.'], ['.', '.']] then none else some (finalPiece t)

theorem finalPiece_eq (t : Text) : finalPiece t = Text.trim (lastComponent t) := by
  rw [finalPiece, List.getLastD_eq_getLast?, getLast?_splitOnP, Option.getD_some]

theorem safeName?_eq_fileNamed? (t : Text) : safeName? t = fileNamed? t := by
  rw [safeName?, fileNamed?, finalPiece_eq]
  simp only [List.mem_cons, List.not_mem_nil, or_false]

/-- White space around a text does not change the file that it names. -/
theorem fileNamed?_trim (t : Text) : fileNamed? (Text.trim t) = fileNamed? t := by
  rw [fileNamed?, fileNamed?, finalPiece_eq, finalPiece_eq, trim_lastComponent_trim]

/-- What a name is reduced to is plain, whatever it was. -/
theorem isPlainName_of_safeName? {found name : Text}
    (h : safeName? found = some name) : IsPlainName name := by
  simp only [safeName?] at h
  split at h
  · cases h
  · next hspecial =>
    cases h
    have hsep : ∀ c ∈ Text.trim (lastComponent found), isSeparator c = false :=
      fun c hc => isSeparator_of_mem_lastComponent (Text.mem_of_mem_trimBy hc)
    refine ⟨fun h => hspecial (.inl h), ?_, ?_,
      fun h => hspecial (.inr (.inl h)), fun h => hspecial (.inr (.inr h)), ?_, ?_⟩
    · intro hmem
      cases hsep _ hmem
    · intro hmem
      cases hsep _ hmem
    · intro c hc
      exact Text.head?_trimBy hc
    · intro c hc
      exact Text.getLast?_trimBy hc

/-- Every file name that a header gives is plain. -/
theorem isPlainName_of_fileName? {header param name : Text}
    (h : fileName? header param = some name) : IsPlainName name := by
  obtain ⟨found, -, hsafe⟩ := Option.bind_eq_some_iff.mp h
  exact isPlainName_of_safeName? hsafe

end Disposition

end HttpExchange
