import HttpExchange.Text.Utf8

/-! Spans. A scanner that walks over a text notes where pieces of it lie by the
offsets of their octets in the UTF-8 form, and takes the pieces out later. A
span fits a text when both of its ends fall between two characters; what `slice`
takes at such a span is exactly the text between its ends. -/

namespace HttpExchange

/-- The octets from offset `start` up to offset `stop`. -/
structure Span where
  start : Nat
  stop : Nat
  deriving DecidableEq, Repr

namespace Text

/-- Offset `n` falls between two characters of the text, or at one of its
ends. -/
def IsBoundary (t : Text) (n : Nat) : Prop :=
  ∃ before after, t = before ++ after ∧ Utf8.length before = n

/-- The text from offset `n` on. -/
def dropOctets : Text → Nat → Text
  | [], _ => []
  | c :: rest, n => if n = 0 then c :: rest else dropOctets rest (n - Utf8.size c)

/-- The text up to offset `n`. -/
def takeOctets : Text → Nat → Text
  | [], _ => []
  | c :: rest, n =>
    if n = 0 then [] else c :: takeOctets rest (n - Utf8.size c)

/-- The piece of the text at a span. -/
def slice (t : Text) (s : Span) : Text :=
  takeOctets (dropOctets t s.start) (s.stop - s.start)

end Text

/-- Both ends of the span are boundaries of the text, in order. -/
def Span.Fits (s : Span) (t : Text) : Prop :=
  s.start ≤ s.stop ∧ t.IsBoundary s.start ∧ t.IsBoundary s.stop

namespace Text

theorem dropOctets_append (before after : Text) :
    dropOctets (before ++ after) (Utf8.length before) = after := by
  induction before with
  | nil => cases after <;> simp [dropOctets]
  | cons c rest ih =>
    have hpos := Utf8.size_pos c
    rw [List.cons_append, dropOctets, Utf8.length_cons, if_neg (by omega),
      show Utf8.size c + Utf8.length rest - Utf8.size c = Utf8.length rest by
        omega, ih]

theorem takeOctets_append (before after : Text) :
    takeOctets (before ++ after) (Utf8.length before) = before := by
  induction before with
  | nil => cases after <;> simp [takeOctets]
  | cons c rest ih =>
    have hpos := Utf8.size_pos c
    rw [List.cons_append, takeOctets, Utf8.length_cons, if_neg (by omega),
      show Utf8.size c + Utf8.length rest - Utf8.size c = Utf8.length rest by
        omega, ih]

/-- The span of a piece between two others takes exactly that piece. -/
theorem slice_append (before piece after : Text) :
    slice (before ++ piece ++ after)
      ⟨Utf8.length before, Utf8.length before + Utf8.length piece⟩ = piece := by
  simp only [slice]
  rw [List.append_assoc, dropOctets_append, Nat.add_sub_cancel_left,
    takeOctets_append]

/-- The span of a piece between two others fits. -/
theorem fits_append (before piece after : Text) :
    (⟨Utf8.length before, Utf8.length before + Utf8.length piece⟩ : Span).Fits
      (before ++ piece ++ after) := by
  refine ⟨by simp, ⟨before, piece ++ after, by simp, rfl⟩, ?_⟩
  exact ⟨before ++ piece, after, rfl, by simp⟩

end Text

end HttpExchange
