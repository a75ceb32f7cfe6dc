import HttpExchange.File.Path

/-! Paths and their parts. `parts` and `ofParts` undo each other on the parts
that a path can have, so that the last name of a path can be replaced: the path
then has the new name and the parent that it had. -/

namespace HttpExchange

namespace Path

/-! ## Pieces that count for nothing -/

section Noise

variable {pieces : List Text} {name : Text}

theorem isPrefix_dropNoise (pieces : List Text) :
    dropNoise pieces <+: pieces := by
  rw [dropNoise, ← List.reverse_suffix, List.reverse_reverse]
  exact List.dropWhile_suffix _

theorem dropNoise_append_singleton (h : isNoise name = false) :
    dropNoise (pieces ++ [name]) = pieces ++ [name] := by
  simp [dropNoise, h]

/-- What is left of the pieces does not end in one that counts for nothing. -/
theorem isNoise_of_getLast?_dropNoise
    (h : (dropNoise pieces).getLast? = some name) : isNoise name = false := by
  rw [dropNoise, List.getLast?_reverse] at h
  have hkept := List.head?_dropWhile_not isNoise pieces.reverse
  rw [h] at hkept
  exact hkept

/-- What is left of the pieces begins as they do. -/
theorem eq_cons_of_head?_dropNoise
    (h : (dropNoise pieces).head? = some name) :
    ∃ rest, pieces = name :: rest := by
  obtain ⟨kept, hkept⟩ := List.head?_eq_some_iff.mp h
  obtain ⟨dropped, hdropped⟩ := isPrefix_dropNoise pieces
  rw [hkept, List.cons_append] at hdropped
  exact ⟨_, hdropped.symm⟩

theorem dropNoise_eq_self
    (h : ∀ name, pieces.getLast? = some name → isNoise name = false) :
    dropNoise pieces = pieces := by
  cases hlast : pieces.getLast? with
  | none =>
    rw [List.getLast?_eq_none_iff] at hlast
    subst hlast
    rfl
  | some name =>
    obtain ⟨init, rfl⟩ := List.getLast?_eq_some_iff.mp hlast
    exact dropNoise_append_singleton (h name hlast)

end Noise

/-! ## Parts -/

/-- The parts that a path can have: no piece holds a slash, the last one counts
for something, and so does the first unless there is something before it. -/
structure Parts.IsProper (x : Parts) : Prop where
  noSlash : ∀ piece ∈ x.pieces, '/' ∉ piece
  last : ∀ name, x.pieces.getLast? = some name → isNoise name = false
  first : x.anchor = .none →
    ∀ name, x.pieces.head? = some name → isNoise name = false

theorem parts_root (rest : Text) :
    parts ('/' :: rest) = ⟨.root, dropNoise (Text.split '/' rest)⟩ := rfl

theorem parts_here (rest : Text) :
    parts ('.' :: '/' :: rest) = ⟨.here, dropNoise (Text.split '/' rest)⟩ := rfl

/-- The parts of the parent of a path with names. -/
def Parts.parent (x : Parts) : Parts :=
  ⟨x.anchor, dropNoise x.pieces.dropLast⟩

/-- A path that begins neither with a slash nor with the piece `.` is
relative. -/
theorem parts_relative {p : Path} (hroot : ∀ rest, p ≠ '/' :: rest)
    (hhere : ∀ rest, Text.split '/' p ≠ ['.'] :: rest) :
    parts p = ⟨.none, dropNoise (Text.split '/' p)⟩ := by
  unfold parts
  split
  · exact absurd rfl (hroot _)
  · next hsplit => exact absurd hsplit (hhere _)
  · rfl

theorem Parts.isProper_dropNoise {anchor : Anchor} {pieces : List Text}
    (hslash : ∀ piece ∈ pieces, '/' ∉ piece)
    (hfirst : anchor = .none →
      ∀ name, (dropNoise pieces).head? = some name → isNoise name = false) :
    Parts.IsProper ⟨anchor, dropNoise pieces⟩ where
  noSlash piece hmem := hslash piece ((isPrefix_dropNoise pieces).subset hmem)
  last _ h := isNoise_of_getLast?_dropNoise h
  first := hfirst

/-- The first piece of a path is empty if it is all, or if the path begins with
a slash. -/
theorem split_eq_nil_cons {p : Path} {rest : List Text}
    (h : Text.split '/' p = [] :: rest) :
    p = [] ∨ ∃ later, p = '/' :: later := by
  cases p with
  | nil => exact .inl rfl
  | cons c later =>
    by_cases hc : c = '/'
    · exact .inr ⟨later, by rw [hc]⟩
    · rw [Text.split, if_neg hc] at h
      split at h <;> cases h

theorem isProper_parts (p : Path) : (parts p).IsProper := by
  have hslash : ∀ piece ∈ Text.split '/' p, '/' ∉ piece :=
    fun piece hmem => Text.not_mem_of_mem_split hmem
  unfold parts
  split
  · next rest piece pieces hsplit =>
    rw [hsplit] at hslash
    exact Parts.isProper_dropNoise (List.forall_mem_cons.mp hslash).2
      (fun h => by cases h)
  · next rest _ hsplit =>
    rw [hsplit] at hslash
    exact Parts.isProper_dropNoise (List.forall_mem_cons.mp hslash).2
      (fun h => by cases h)
  · next hhere hroot =>
    refine Parts.isProper_dropNoise hslash fun _ name hhead => ?_
    obtain ⟨rest, hsplit⟩ := eq_cons_of_head?_dropNoise hhead
    have hdot : name ≠ ['.'] := by
      rintro rfl
      exact hhere _ hsplit
    have hempty : name ≠ [] := by
      rintro rfl
      rcases split_eq_nil_cons hsplit with rfl | ⟨later, rfl⟩
      · cases hhead
      · exact hroot _ _ _ rfl hsplit
    simp [isNoise, hempty, hdot]

/-- Proper parts are those of the path that is made of them. -/
theorem parts_ofParts {x : Parts} (h : x.IsProper) : parts (ofParts x) = x := by
  obtain ⟨anchor, pieces⟩ := x
  have hdrop : dropNoise pieces = pieces := dropNoise_eq_self h.last
  cases anchor with
  | root =>
    rw [ofParts, parts_root]
    by_cases hne : pieces = []
    · subst hne
      rfl
    · rw [Text.split_join hne h.noSlash, hdrop]
  | here =>
    cases pieces with
    | nil => rfl
    | cons first rest =>
      change parts ('.' :: '/' :: Text.join '/' (first :: rest)) = _
      rw [parts_here, Text.split_join (by simp) h.noSlash, hdrop]
  | none =>
    cases pieces with
    | nil => rfl
    | cons first rest =>
      have hsplit : Text.split '/' (Text.join '/' (first :: rest)) =
          first :: rest := Text.split_join (by simp) h.noSlash
      have hfirst : isNoise first = false := h.first rfl first rfl
      change parts (Text.join '/' (first :: rest)) = _
      -- The first piece keeps the text from being taken for a rooted path or
      -- for one that begins with the piece of the current directory.
      rw [parts_relative, hsplit, hdrop]
      · intro later hlater
        rw [hlater, Text.split, if_pos rfl] at hsplit
        cases hsplit
        cases hfirst
      · intro others hothers
        rw [hsplit] at hothers
        cases hothers
        cases hfirst

/-! ## Names -/

/-- A name that an entry of a directory can have, as far as paths go. -/
structure IsName (name : Text) : Prop where
  noSlash : '/' ∉ name
  counts : isNoise name = false
  notAbove : name ≠ ['.', '.']

theorem fileName?_eq_some_iff {p : Path} {name : Text} :
    fileName? p = some name ↔
      (parts p).pieces.getLast? = some name ∧ name ≠ ['.', '.'] := by
  rw [fileName?]
  cases (parts p).pieces.getLast? with
  | none => simp
  | some last =>
    by_cases hlast : last = ['.', '.']
    · simp [hlast, eq_comm]
    · simp only [hlast, if_false, Option.some.injEq]
      constructor
      · rintro rfl
        exact ⟨rfl, hlast⟩
      · exact And.left

/-- The last name of a path is a name. -/
theorem isName_of_fileName? {p : Path} {name : Text}
    (h : fileName? p = some name) : IsName name := by
  obtain ⟨hlast, habove⟩ := fileName?_eq_some_iff.mp h
  have hproper := isProper_parts p
  exact ⟨hproper.noSlash _ (List.mem_of_getLast? hlast), hproper.last _ hlast,
    habove⟩

/-- A longer name is a name. -/
theorem IsName.append {name suffix : Text} (h : IsName name)
    (hsuffix : '/' ∉ suffix) : IsName (name ++ suffix) := by
  obtain ⟨hslash, hcounts, habove⟩ := h
  -- Only a name of one character could become one of the special names.
  match name, hcounts, habove with
  | [c], hcounts, _ =>
    have hc : c ≠ '.' := by
      rintro rfl
      cases hcounts
    refine ⟨by simpa using ⟨by simpa using hslash, hsuffix⟩, ?_, ?_⟩
    · simp [isNoise, hc]
    · simp [hc]
  | b :: c :: rest, _, habove =>
    refine ⟨by simp_all, by simp [isNoise], ?_⟩
    simp_all

/-- The parent of a path that has names. -/
theorem parent?_of_pieces {p : Path} (h : (parts p).pieces ≠ []) :
    parent? p = some (ofParts (parts p).parent) := by
  rw [parent?]
  split
  · next heq _ => exact absurd heq h
  · next heq _ => exact absurd heq h
  · rfl

/-- A path inside another, by the last character of the other. -/
theorem join_of_isName {base : Path} {name : Text} (h : IsName name) :
    join base name =
      if base.isEmpty || base.getLast? = some '/' then base ++ name
      else base ++ '/' :: name := by
  rw [join]
  rintro tail rfl
  exact h.noSlash List.mem_cons_self

/-- What a path with names begins with before the first of them. -/
def Anchor.lead : Anchor → Text
  | .root => ['/']
  | .here => ['.', '/']
  | .none => []

theorem ofParts_of_pieces {anchor : Anchor} {pieces : List Text}
    (h : pieces ≠ []) :
    ofParts ⟨anchor, pieces⟩ = anchor.lead ++ Text.join '/' pieces := by
  cases anchor with
  | root => rfl
  | here =>
    cases pieces with
    | nil => exact absurd rfl h
    | cons first rest => rfl
  | none => rfl

/-- A name inside the path with the given parts becomes their last piece. -/
theorem join_ofParts {x : Parts} {name : Text} (h : x.IsProper)
    (hname : IsName name) :
    join (ofParts x) name = ofParts ⟨x.anchor, x.pieces ++ [name]⟩ := by
  obtain ⟨anchor, pieces⟩ := x
  rw [join_of_isName hname]
  by_cases hne : pieces = []
  · subst hne
    cases anchor <;> simp [ofParts, Text.join_nil, Text.join_singleton]
  · obtain ⟨last, hlast⟩ := Option.ne_none_iff_exists'.mp
      (mt List.getLast?_eq_none_iff.mp hne)
    have hlast_ne : last ≠ [] := by
      rintro rfl
      cases h.last _ hlast
    obtain ⟨c, hc⟩ := Option.ne_none_iff_exists'.mp
      (mt List.getLast?_eq_none_iff.mp hlast_ne)
    have hslash : c ≠ '/' := by
      rintro rfl
      exact h.noSlash last (List.mem_of_getLast? hlast) (List.mem_of_getLast? hc)
    have hend : (ofParts ⟨anchor, pieces⟩).getLast? = some c := by
      rw [ofParts_of_pieces hne, List.getLast?_append,
        Text.getLast?_join hlast hlast_ne, hc]
      rfl
    have hfull : ofParts ⟨anchor, pieces⟩ ≠ [] := by
      intro hempty
      rw [hempty] at hend
      cases hend
    rw [if_neg (by simp [hend, hslash, hfull]), ofParts_of_pieces hne,
      ofParts_of_pieces (by simp), Text.join_append hne (by simp),
      Text.join_singleton, List.append_assoc]

/-! ## Another last name -/

theorem Parts.IsProper.parent {x : Parts} (h : x.IsProper) :
    x.parent.IsProper := by
  refine Parts.isProper_dropNoise ?_ ?_
  · intro piece hmem
    exact h.noSlash piece (List.dropLast_subset _ hmem)
  · intro hanchor name hhead
    obtain ⟨rest, hrest⟩ := eq_cons_of_head?_dropNoise hhead
    obtain ⟨last, hlast⟩ := List.dropLast_prefix x.pieces
    apply h.first hanchor
    rw [← hlast, hrest]
    rfl

theorem Parts.IsProper.concat {x : Parts} {name : Text} (h : x.IsProper)
    (hname : IsName name) : Parts.IsProper ⟨x.anchor, x.pieces ++ [name]⟩ where
  noSlash piece hmem := by
    rcases List.mem_append.mp hmem with hmem | hmem
    · exact h.noSlash piece hmem
    · obtain rfl := List.mem_singleton.mp hmem
      exact hname.noSlash
  last other hlast := by
    rw [List.getLast?_concat] at hlast
    cases hlast
    exact hname.counts
  first hanchor other hhead := by
    cases hpieces : x.pieces with
    | nil =>
      rw [hpieces] at hhead
      cases hhead
      exact hname.counts
    | cons piece rest =>
      rw [hpieces] at hhead
      exact h.first hanchor other (by rw [hpieces]; exact hhead)

section WithFileName

variable {p : Path} {name other : Text}

theorem pieces_ne_nil_of_fileName? (h : fileName? p = some name) :
    (parts p).pieces ≠ [] := by
  intro hnil
  rw [fileName?, hnil] at h
  cases h

/-- A path with another name consists of what its parent consists of, and the
name. -/
theorem parts_withFileName (h : fileName? p = some name)
    (hother : IsName other) :
    parts (withFileName p other) =
      ⟨(parts p).anchor, (parts p).parent.pieces ++ [other]⟩ := by
  have hparent := (isProper_parts p).parent
  rw [withFileName, h, Option.isSome_some, if_pos rfl,
    parent?_of_pieces (pieces_ne_nil_of_fileName? h), Option.getD_some,
    join_ofParts hparent hother]
  exact parts_ofParts (hparent.concat hother)

/-- A path with another name has that name. -/
theorem fileName?_withFileName (h : fileName? p = some name)
    (hother : IsName other) : fileName? (withFileName p other) = some other := by
  rw [fileName?_eq_some_iff, parts_withFileName h hother]
  exact ⟨List.getLast?_concat, hother.notAbove⟩

/-- A path with another name has the same parent. -/
theorem parent?_withFileName (h : fileName? p = some name)
    (hother : IsName other) : parent? (withFileName p other) = parent? p := by
  rw [parent?_of_pieces (pieces_ne_nil_of_fileName? h),
    parent?_of_pieces (pieces_ne_nil_of_fileName?
      (fileName?_withFileName h hother)), parts_withFileName h hother,
    Parts.parent, List.dropLast_concat,
    dropNoise_eq_self (isProper_parts p).parent.last]
  rfl

end WithFileName

/-- Two paths with different names and the same parent. -/
def Beside (p q : Path) : Prop :=
  parent? p = parent? q ∧
    ∃ m n, fileName? p = some m ∧ fileName? q = some n ∧ m ≠ n

theorem Beside.ne {p q : Path} (h : Beside p q) : p ≠ q := by
  rintro rfl
  obtain ⟨-, m, n, hm, hn, hne⟩ := h
  rw [hm] at hn
  cases hn
  exact hne rfl

end Path

end HttpExchange
