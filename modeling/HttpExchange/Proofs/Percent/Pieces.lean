import HttpExchange.Percent.Component
import HttpExchange.Percent.Decode

/-! How raw text is cut. Every function on raw text goes over it in the same four
ways: the end, an escape, a stray `%`, any other character. `escape_induction` says
so once, and each function has one equation for each way. In the cutting a round
takes the run up to the next `%` and then that `%`, with its two digits if they
follow it; the run that no `%` ends is the last piece. `Cuts` lists these ways, and
where each piece lies, so what holds of all pieces is proved by induction on it: they
lie between characters, and there is one round for each `%`. -/

namespace HttpExchange

namespace Span

/-- Where a piece lies that stands behind `before`. -/
def behind (before piece : Text) : Span :=
  ⟨Utf8.length before, Utf8.length (before ++ piece)⟩

theorem behind_fits (before piece after : Text) :
    (behind before piece).Fits (before ++ (piece ++ after)) := by
  have h := Text.fits_append before piece after
  rwa [← Utf8.length_append, List.append_assoc] at h

theorem slice_behind (before piece after : Text) :
    Text.slice (before ++ (piece ++ after)) (behind before piece) = piece := by
  have h := Text.slice_append before piece after
  rwa [← Utf8.length_append, List.append_assoc] at h

end Span

namespace Percent

/-! ## The ways through a text -/

theorem escaped?_eq_none_iff {a b : Char} {t : Text} :
    escaped? (a :: b :: t) = none ↔
      (Hex.isDigit a && Hex.isDigit b) = false := by
  rw [← Hex.byte?_isSome, escaped?]
  cases Hex.byte? a b <;> simp

/-- A text ends, or begins with an escape, a stray `%` or another character. -/
theorem escape_induction {motive : Text → Prop} (nil : motive [])
    (escape : ∀ a b t, Hex.isDigit a = true → Hex.isDigit b = true →
      motive t → motive ('%' :: a :: b :: t))
    (stray : ∀ t, escaped? t = none → motive t → motive ('%' :: t))
    (char : ∀ c t, c ≠ '%' → motive t → motive (c :: t)) (t : Text) :
    motive t := by
  -- An escape takes three characters at once, so the induction is on length.
  induction hn : t.length using Nat.strongRecOn generalizing t with
  | _ n ih =>
    cases t with
    | nil => exact nil
    | cons c rest =>
      have hrest : motive rest := ih _ (by simp [← hn]) rest rfl
      by_cases hc : c = '%'
      · subst hc
        cases he : escaped? rest with
        | none => exact stray rest he hrest
        | some found =>
          match rest, he with
          | a :: b :: t, he =>
            have hd : (Hex.isDigit a && Hex.isDigit b) = true := by
              rw [← Bool.not_eq_false, ← escaped?_eq_none_iff (t := t), he]
              simp
            rw [Bool.and_eq_true] at hd
            exact escape a b t hd.1 hd.2 (ih _ (by simp [← hn]; omega) t rfl)
      · exact char c rest hc hrest

/-! ## One character -/

theorem piecesFrom_escape {start offset : Nat} {a b : Char} {t : Text}
    (ha : Hex.isDigit a = true) (hb : Hex.isDigit b = true) :
    piecesFrom start offset ('%' :: a :: b :: t) =
      .run ⟨start, offset⟩ :: .escape ⟨offset, offset + 3⟩ ::
        piecesFrom (offset + 3) (offset + 3) t := by
  simp [piecesFrom, ha, hb]

theorem piecesFrom_stray {start offset : Nat} {t : Text}
    (h : escaped? t = none) :
    piecesFrom start offset ('%' :: t) =
      .run ⟨start, offset⟩ :: .stray ⟨offset, offset + 1⟩ ::
        piecesFrom (offset + 1) (offset + 1) t := by
  match t with
  | [] => rfl
  | [_] => rfl
  | a :: b :: t =>
    have hd := escaped?_eq_none_iff.mp h
    simp [piecesFrom, hd]

theorem piecesFrom_char {start offset : Nat} {c : Char} {t : Text}
    (h : c ≠ '%') :
    piecesFrom start offset (c :: t) =
      piecesFrom start (offset + Utf8.size c) t := by
  match t with
  | [] => simp [piecesFrom, h]
  | [_] => simp [piecesFrom, h]
  | _ :: _ :: _ => simp [piecesFrom, h]

/-! ## One round -/

/-- The ways in which the text behind `before` is cut into pieces. -/
inductive Cuts : Text → List Piece → Text → Prop where
  /-- No `%` is left. -/
  | last {before run} (hrun : '%' ∉ run) :
      Cuts before [.run (.behind before run)] run
  /-- The next `%` begins an escape. -/
  | escape {before run a b pieces rest} (hrun : '%' ∉ run)
      (ha : Hex.isDigit a = true) (hb : Hex.isDigit b = true)
      (h : Cuts (before ++ run ++ ['%', a, b]) pieces rest) :
      Cuts before
        (.run (.behind before run) ::
          .escape (.behind (before ++ run) ['%', a, b]) :: pieces)
        (run ++ ['%', a, b] ++ rest)
  /-- The next `%` begins none. -/
  | stray {before run pieces rest} (hrun : '%' ∉ run)
      (hstray : escaped? rest = none)
      (h : Cuts (before ++ run ++ ['%']) pieces rest) :
      Cuts before
        (.run (.behind before run) ::
          .stray (.behind (before ++ run) ['%']) :: pieces)
        (run ++ ['%'] ++ rest)

theorem length_escape {a b : Char} (ha : Hex.isDigit a = true)
    (hb : Hex.isDigit b = true) : Utf8.length ['%', a, b] = 3 := by
  simp [Utf8.size_of_lt (Hex.toNat_lt_of_isDigit ha),
    Utf8.size_of_lt (Hex.toNat_lt_of_isDigit hb),
    show Utf8.size '%' = 1 from rfl]

/-- The pieces from within a run on. The run began after `before`; `t` is still
to be cut. -/
theorem cuts_piecesFrom {before run : Text} (hrun : '%' ∉ run) (t : Text) :
    Cuts before (piecesFrom (Utf8.length before) (Utf8.length (before ++ run)) t)
      (run ++ t) := by
  induction t using escape_induction generalizing before run with
  | nil =>
    rw [piecesFrom, List.append_nil run]
    exact .last hrun
  | escape a b t ha hb ih =>
    -- The three characters of an escape are three octets, so the next run
    -- begins at an offset between characters.
    have hrest := @ih (before ++ run ++ ['%', a, b]) [] List.not_mem_nil
    have hcuts := Cuts.escape hrun ha hb hrest
    rw [Span.behind, Span.behind, List.append_nil,
      Utf8.length_append _ ['%', a, b], length_escape ha hb] at hcuts
    rw [piecesFrom_escape ha hb]
    simpa using hcuts
  | stray t he ih =>
    have hrest := @ih (before ++ run ++ ['%']) [] List.not_mem_nil
    have hcuts := Cuts.stray hrun he hrest
    rw [Span.behind, Span.behind, List.append_nil, Utf8.length_append _ ['%'],
      show Utf8.length ['%'] = 1 from rfl] at hcuts
    rw [piecesFrom_stray he]
    simpa using hcuts
  | char c t hc ih =>
    have hrest := @ih before (run ++ [c]) (by simp [hrun, Ne.symm hc])
    rw [← List.append_assoc, Utf8.length_append _ [c], Utf8.length_cons,
      Utf8.length_nil, Nat.add_zero] at hrest
    rw [piecesFrom_char hc]
    simpa using hrest

/-- Every text is cut, from its start to its end. -/
theorem cuts_pieces (t : Text) : Cuts [] (pieces t) t :=
  @cuts_piecesFrom [] [] List.not_mem_nil t

namespace Cuts

variable {before rest : Text} {pieces : List Piece}

/-- The ends of every piece lie between characters. -/
theorem fits (h : Cuts before pieces rest) :
    ∀ piece ∈ pieces, piece.span.Fits (before ++ rest) := by
  induction h with
  | @last before run _ =>
    have hfits := Span.behind_fits before run []
    rw [List.append_nil] at hfits
    simpa [Piece.span] using hfits
  | @escape before run a b _ rest _ _ _ _ ih =>
    have hrun := Span.behind_fits before run (['%', a, b] ++ rest)
    have hsign := Span.behind_fits (before ++ run) ['%', a, b] rest
    simp only [List.append_assoc] at ih hrun hsign ⊢
    exact List.forall_mem_cons.mpr ⟨hrun, List.forall_mem_cons.mpr ⟨hsign, ih⟩⟩
  | @stray before run _ rest _ _ _ ih =>
    have hrun := Span.behind_fits before run (['%'] ++ rest)
    have hsign := Span.behind_fits (before ++ run) ['%'] rest
    simp only [List.append_assoc] at ih hrun hsign ⊢
    exact List.forall_mem_cons.mpr ⟨hrun, List.forall_mem_cons.mpr ⟨hsign, ih⟩⟩

/-- There is one round for each `%`, and one run behind the last of them. -/
theorem length_eq (h : Cuts before pieces rest) :
    pieces.length = 2 * rest.count '%' + 1 := by
  induction h with
  | last hrun => simp [List.count_eq_zero.mpr hrun]
  | @escape _ _ a b _ _ hrun ha hb _ ih =>
    have hsign : List.count '%' ['%', a, b] = 1 := by
      simp [Hex.ne_percent_of_isDigit ha, Hex.ne_percent_of_isDigit hb]
    simp only [List.length_cons, ih, List.count_append, hsign,
      List.count_eq_zero.mpr hrun]
    omega
  | stray hrun _ _ ih =>
    simp only [List.length_cons, ih, List.count_append, List.count_singleton_self,
      List.count_eq_zero.mpr hrun]
    omega

end Cuts

end Percent

end HttpExchange
