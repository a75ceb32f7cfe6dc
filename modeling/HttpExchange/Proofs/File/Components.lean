import HttpExchange.Proofs.File.Inside

/-! Paths by their components. What a path goes through are the pieces between its
slashes that count for something, whatever it starts from; its last name is the last
of them. So what follows a path after a slash only adds components, and another last
name in the place of the last one leaves the components before it as they are. -/

namespace HttpExchange.Path

/-! ## Components and pieces -/

/-- Only pieces that count for nothing are dropped. -/
theorem eq_dropNoise_append (pieces : List Text) :
    ∃ dropped, pieces = dropNoise pieces ++ dropped ∧
      ∀ piece ∈ dropped, isNoise piece = true := by
  refine ⟨(pieces.reverse.takeWhile isNoise).reverse, ?_, fun piece hmem => ?_⟩
  · rw [dropNoise, ← List.reverse_append, List.takeWhile_append_dropWhile,
      List.reverse_reverse]
  · rw [List.mem_reverse] at hmem
    exact List.all_eq_true.mp List.all_takeWhile piece hmem

theorem filter_dropNoise (pieces : List Text) :
    ((dropNoise pieces).filter fun piece => !isNoise piece) =
      pieces.filter fun piece => !isNoise piece := by
  obtain ⟨dropped, heq, hnoise⟩ := eq_dropNoise_append pieces
  have hnone : (dropped.filter fun piece => !isNoise piece) = [] :=
    List.filter_eq_nil_iff.mpr fun piece hmem => by simp [hnoise piece hmem]
  rw [heq, List.filter_append, hnone, List.append_nil, ← heq]

theorem filter_concat (pieces : List Text) {name : Text}
    (h : isNoise name = false) :
    ((pieces ++ [name]).filter fun piece => !isNoise piece) =
      (pieces.filter fun piece => !isNoise piece) ++ [name] := by
  rw [List.filter_append, List.filter_cons_of_pos (by simp [h]), List.filter_nil]

/-- What a path starts from is told by how it begins. -/
theorem anchor_parts (p : Path) :
    (parts p).anchor =
      if p.head? = some '/' then .root
      else if (Text.split '/' p).head? = some ['.'] then .here else .none := by
  unfold parts
  split
  · rfl
  · next rest hroot hsplit =>
    rw [hsplit, if_neg, List.head?_cons, if_pos rfl]
    intro hhead
    obtain ⟨later, rfl⟩ := List.head?_eq_some_iff.mp hhead
    cases hsplit
  · next hhere hroot =>
    rw [if_neg, if_neg]
    · intro hhead
      obtain ⟨rest, hsplit⟩ := List.head?_eq_some_iff.mp hhead
      exact hhere rest hsplit
    · intro hhead
      obtain ⟨later, rfl⟩ := List.head?_eq_some_iff.mp hhead
      exact hroot later _ _ rfl rfl

/-- A path goes through all its pieces that count for something. -/
theorem pieces_components (p : Path) :
    (components p).pieces =
      (Text.split '/' p).filter fun piece => !isNoise piece := by
  show ((parts p).pieces.filter fun piece => !isNoise piece) = _
  unfold parts
  split
  · next later piece rest hsplit =>
    cases hsplit
    rw [filter_dropNoise, Text.split, if_pos rfl]
    rfl
  · next rest hroot hsplit =>
    rw [filter_dropNoise, hsplit]
    rfl
  · exact filter_dropNoise _

/-- What follows a path after a slash adds its pieces. -/
theorem components_append_slash {p : Path} (hp : p ≠ []) (rest : Text) :
    components (p ++ '/' :: rest) =
      ⟨(components p).anchor, (components p).pieces ++
        (Text.split '/' rest).filter fun piece => !isNoise piece⟩ := by
  have hanchor : (parts (p ++ '/' :: rest)).anchor = (parts p).anchor := by
    obtain ⟨c, later, rfl⟩ := List.exists_cons_of_ne_nil hp
    obtain ⟨piece, pieces, hsplit⟩ :=
      List.exists_cons_of_ne_nil (Text.split_ne_nil '/' (c :: later))
    rw [anchor_parts, anchor_parts, Text.split_append_sep, hsplit]
    rfl
  have hpieces := pieces_components (p ++ '/' :: rest)
  rw [Text.split_append_sep, List.filter_append, ← pieces_components] at hpieces
  rw [← hpieces]
  exact congrArg (Parts.mk · _) hanchor

/-! ## Components and names -/

/-- The last component of the path is `name`, which is not `..`. -/
def EndsIn (p : Path) (name : Text) : Prop :=
  (components p).pieces.getLast? = some name ∧ name ≠ ['.', '.']

variable {p : Path} {name other : Text}

theorem fileName?_eq_some_iff_endsIn :
    fileName? p = some name ↔ EndsIn p name := by
  have hlast : (components p).pieces.getLast? = (parts p).pieces.getLast? := by
    show ((parts p).pieces.filter fun piece => !isNoise piece).getLast? = _
    cases hparts : (parts p).pieces.getLast? with
    | none =>
      rw [List.getLast?_eq_none_iff.mp hparts]
      rfl
    | some last =>
      have hcounts := (isProper_parts p).last last hparts
      obtain ⟨init, hinit⟩ := List.getLast?_eq_some_iff.mp hparts
      rw [hinit, filter_concat init hcounts, List.getLast?_concat]
  rw [fileName?_eq_some_iff, EndsIn, hlast]

/-- The components of a path before its last name. -/
def above (p : Path) : List Text :=
  (components p).pieces.dropLast

theorem components_of_fileName? (h : fileName? p = some name) :
    components p = ⟨(components p).anchor, above p ++ [name]⟩ := by
  obtain ⟨init, hinit⟩ := List.getLast?_eq_some_iff.mp
    (fileName?_eq_some_iff_endsIn.mp h).1
  have hpieces : (components p).pieces = above p ++ [name] := by
    rw [above, hinit, List.dropLast_concat]
  exact congrArg (Parts.mk _) hpieces

/-- Another last name leaves the components before it as they are. -/
theorem components_withFileName (h : fileName? p = some name)
    (hother : IsName other) :
    components (withFileName p other) =
      ⟨(components p).anchor, above p ++ [other]⟩ := by
  obtain ⟨init, hinit⟩ := List.getLast?_eq_some_iff.mp
    (fileName?_eq_some_iff.mp h).1
  have hname := (isName_of_fileName? h).counts
  have habove : above p = init.filter fun piece => !isNoise piece := by
    show ((parts p).pieces.filter fun piece => !isNoise piece).dropLast = _
    rw [hinit, filter_concat init hname, List.dropLast_concat]
  rw [components, parts_withFileName h hother, Parts.parent, hinit,
    List.dropLast_concat, filter_concat _ hother.counts, filter_dropNoise, habove]
  rfl

/-- What follows a name after a slash follows the path with that name. -/
theorem withFileName_append_slash (h : fileName? p = some name)
    (hother : IsName other) (rest : Text) :
    withFileName p (other ++ '/' :: rest) =
      withFileName p other ++ '/' :: rest := by
  have hrelative : ∀ tail, other ++ '/' :: rest ≠ '/' :: tail := by
    intro tail heq
    cases other with
    | nil => cases hother.counts
    | cons c later =>
      obtain ⟨rfl, -⟩ := List.cons.inj heq
      exact hother.noSlash List.mem_cons_self
  rw [withFileName, withFileName, h, Option.isSome_some, if_pos rfl, if_pos rfl,
    join_of_isName hother, join]
  · split <;> simp
  · exact hrelative

end HttpExchange.Path
