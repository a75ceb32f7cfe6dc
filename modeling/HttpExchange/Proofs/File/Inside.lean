import HttpExchange.Proofs.File.Path

/-! Names inside directories. However a directory is spelled, a name joined to it
gives a path that ends in that name and whose parent is the directory, spelled
without what counts for nothing at its end. -/

namespace HttpExchange.Path

variable {name : Text} {dir : Path}

/-! ## The pieces of a joined path -/

theorem join_nil (h : IsName name) : join [] name = name := by
  rw [join_of_isName h]
  rfl

/-- A name goes behind what follows the first character of a directory. -/
theorem join_cons (h : IsName name) {c : Char} (hdir : dir ≠ []) :
    join (c :: dir) name = c :: join dir name := by
  have hlast : (c :: dir).getLast? = dir.getLast? := by
    obtain ⟨d, rest, rfl⟩ := List.exists_cons_of_ne_nil hdir
    rfl
  rw [join_of_isName h, join_of_isName h, hlast, List.isEmpty_cons,
    List.isEmpty_eq_false_iff.mpr hdir]
  split <;> rfl

theorem join_slash (h : IsName name) (dir : Path) :
    join ('/' :: dir) name = '/' :: join dir name := by
  by_cases hdir : dir = []
  · subst hdir
    rw [join_nil h, join_of_isName h]
    rfl
  · exact join_cons h hdir

/-- A name joined to a directory is its last piece. The pieces before it are
those of the directory, or all of them but an empty one at the end. -/
theorem split_join_name (h : IsName name) (dir : Path) :
    ∃ pieces, Text.split '/' (join dir name) = pieces ++ [name] ∧
      dropNoise pieces = dropNoise (Text.split '/' dir) := by
  have hname : Text.split '/' name = [name] := Text.split_of_not_mem h.noSlash
  rw [join_of_isName h]
  by_cases hempty : dir = []
  · subst hempty
    exact ⟨[], hname, rfl⟩
  · by_cases hslash : dir.getLast? = some '/'
    · obtain ⟨init, rfl⟩ := List.getLast?_eq_some_iff.mp hslash
      rw [if_pos (by simp), List.append_assoc, List.singleton_append,
        Text.split_append_sep, Text.split_append_sep, hname]
      exact ⟨_, rfl, by simp [Text.split, dropNoise, isNoise]⟩
    · rw [if_neg (by simp [hempty, hslash]), Text.split_append_sep, hname]
      exact ⟨_, rfl, rfl⟩

/-! ## How a joined path begins -/

theorem head?_join (h : IsName name) (c : Char) (dir : Path) :
    (join (c :: dir) name).head? = some c := by
  rw [join_of_isName h]
  split <;> rfl

/-- A joined path is rooted only if the directory is. -/
theorem rooted_of_join (h : IsName name) {rest : Path}
    (hjoin : join dir name = '/' :: rest) : ∃ later, dir = '/' :: later := by
  cases dir with
  | nil =>
    rw [join_nil h] at hjoin
    exact absurd (hjoin ▸ List.mem_cons_self) h.noSlash
  | cons c dir =>
    have hhead := head?_join h c dir
    rw [hjoin, List.head?_cons, Option.some.injEq] at hhead
    exact ⟨dir, by rw [hhead]⟩

/-- The first piece of a path is `.` if it is all, or if a slash follows it. -/
theorem split_eq_dot_cons {p : Path} {rest : List Text}
    (h : Text.split '/' p = ['.'] :: rest) :
    p = ['.'] ∨ ∃ later, p = '.' :: '/' :: later := by
  have hjoin := Text.join_split '/' p
  rw [h] at hjoin
  cases rest with
  | nil => exact .inl hjoin.symm
  | cons piece pieces =>
    refine .inr ⟨Text.join '/' (piece :: pieces), ?_⟩
    rw [← hjoin, Text.join_cons_cons]
    rfl

/-- A joined path begins with the piece `.` only if the directory does. -/
theorem here_of_join (h : IsName name) {rest : List Text}
    (hjoin : Text.split '/' (join dir name) = ['.'] :: rest) :
    dir = ['.'] ∨ ∃ later, dir = '.' :: '/' :: later := by
  have hbegin := split_eq_dot_cons hjoin
  cases dir with
  | nil =>
    rw [join_nil h] at hbegin
    rcases hbegin with rfl | ⟨later, rfl⟩
    · cases h.counts
    · exact absurd (List.mem_cons_of_mem _ List.mem_cons_self) h.noSlash
  | cons c dir =>
    obtain ⟨tail, htail⟩ : ∃ tail, join (c :: dir) name = '.' :: tail := by
      rcases hbegin with heq | ⟨later, heq⟩
      · exact ⟨_, heq⟩
      · exact ⟨_, heq⟩
    have hhead := head?_join h c dir
    rw [htail, List.head?_cons, Option.some.injEq] at hhead
    subst hhead
    by_cases hdir : dir = []
    · exact .inl (by rw [hdir])
    · rw [join_cons h hdir] at hbegin
      rcases hbegin with heq | ⟨later, heq⟩
      · obtain ⟨d, others, rfl⟩ := List.exists_cons_of_ne_nil hdir
        have hnext := head?_join h d others
        rw [(List.cons.inj heq).2] at hnext
        cases hnext
      · obtain ⟨others, rfl⟩ := rooted_of_join h (List.cons.inj heq).2
        exact .inr ⟨others, rfl⟩

/-! ## The parts of a joined path -/

/-- A name joined to a directory is behind the pieces of the directory. -/
theorem parts_join (h : IsName name) (dir : Path) :
    ∃ pieces, parts (join dir name) = ⟨(parts dir).anchor, pieces ++ [name]⟩ ∧
      dropNoise pieces = (parts dir).pieces := by
  -- What a path starts from is no piece, so it is taken off the directory.
  by_cases hroot : ∃ rest, dir = '/' :: rest
  · obtain ⟨rest, rfl⟩ := hroot
    obtain ⟨pieces, hsplit, hdrop⟩ := split_join_name h rest
    refine ⟨pieces, ?_, hdrop⟩
    rw [join_slash h, parts_root, hsplit, dropNoise_append_singleton h.counts]
    rfl
  by_cases hdot : dir = ['.']
  · subst hdot
    refine ⟨[], ?_, rfl⟩
    have hjoin : join ['.'] name = '.' :: '/' :: name := by
      rw [join_of_isName h]
      rfl
    rw [hjoin, parts_here, Text.split_of_not_mem h.noSlash,
      ← List.nil_append [name], dropNoise_append_singleton h.counts]
    rfl
  by_cases hhere : ∃ rest, dir = '.' :: '/' :: rest
  · obtain ⟨rest, rfl⟩ := hhere
    obtain ⟨pieces, hsplit, hdrop⟩ := split_join_name h rest
    refine ⟨pieces, ?_, hdrop⟩
    rw [join_cons h (by simp), join_slash h, parts_here, hsplit,
      dropNoise_append_singleton h.counts]
    rfl
  · obtain ⟨pieces, hsplit, hdrop⟩ := split_join_name h dir
    have hbegin : ¬ (dir = ['.'] ∨ ∃ rest, dir = '.' :: '/' :: rest) := by
      rintro (h | h)
      · exact hdot h
      · exact hhere h
    have hdir := parts_relative (fun rest heq => hroot ⟨rest, heq⟩)
      (fun _ heq => hbegin (split_eq_dot_cons heq))
    have hjoined := parts_relative (fun _ heq => hroot (rooted_of_join h heq))
      (fun _ heq => hbegin (here_of_join h heq))
    rw [hsplit, dropNoise_append_singleton h.counts] at hjoined
    rw [hjoined, hdir]
    exact ⟨pieces, rfl, hdrop⟩

/-! ## Name and parent -/

/-- A path inside a directory: its last name is `name`, and its parent is a
spelling of `dir`. -/
structure IsInside (dir : Path) (name : Text) (p : Path) : Prop where
  fileName : fileName? p = some name
  parent : (parent? p).map components = some (components dir)

/-- A name joined to a directory is inside it. -/
theorem isInside_join (h : IsName name) (dir : Path) :
    IsInside dir name (join dir name) := by
  obtain ⟨pieces, hparts, hdrop⟩ := parts_join h dir
  have hname : fileName? (join dir name) = some name := by
    rw [fileName?_eq_some_iff, hparts]
    exact ⟨List.getLast?_concat, h.notAbove⟩
  have hparent : (parts (join dir name)).parent = parts dir := by
    rw [Parts.parent, hparts, List.dropLast_concat, hdrop]
  refine ⟨hname, ?_⟩
  rw [parent?_of_pieces (pieces_ne_nil_of_fileName? hname), hparent,
    Option.map_some, components, components, parts_ofParts (isProper_parts dir)]

/-- Another name in place of the last one is inside the same directory. -/
theorem IsInside.withFileName {p : Path} {other : Text} (h : IsInside dir name p)
    (hother : IsName other) : IsInside dir other (withFileName p other) where
  fileName := fileName?_withFileName h.fileName hother
  parent := by rw [parent?_withFileName h.fileName hother, h.parent]

end HttpExchange.Path
