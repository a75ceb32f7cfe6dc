import HttpExchange.Io.Error
import HttpExchange.Proofs.Text.Search

/-! Errors within errors. A wrapped error keeps its text in every layer but shows only
the kind of the outermost one, and the layer below is looked at but no further. So
whether an error says that a stream ended early hangs on its text and on two kinds:
words in the text carry through any number of layers, the kind only through one. -/

namespace HttpExchange.IoError

/-- The error within layers of others, whose kinds are given from outside in. -/
def within (layers : List ErrorKind) (e : IoError) : IoError :=
  layers.foldr wrapped e

/-- The kinds of an error and of those within it, from outside in. -/
def kinds : IoError → List ErrorKind
  | wrapped kind inner => kind :: inner.kinds
  | e => [e.kind]

/-- The text of the error has the words "premature EOF" in it, in either case. -/
def NamesPrematureEof (e : IoError) : Prop :=
  "premature eof".toList <:+: Text.lowerAscii e.text

variable (e : IoError) (layers : List ErrorKind)

/-! ## Layers -/

theorem text_within : (e.within layers).text = e.text := by
  induction layers with
  | nil => rfl
  | cons kind layers ih => exact ih

theorem namesPrematureEof_within :
    (e.within layers).NamesPrematureEof ↔ e.NamesPrematureEof := by
  rw [NamesPrematureEof, text_within, NamesPrematureEof]

theorem kinds_within : (e.within layers).kinds = layers ++ e.kinds := by
  induction layers with
  | nil => rfl
  | cons kind layers ih => exact congrArg (kind :: ·) ih

theorem head?_kinds : e.kinds.head? = some e.kind := by
  cases e <;> rfl

/-! ## Early ends -/

/-- An error that wraps no other has its own kind alone; one that does shows two. -/
theorem take_kinds :
    e.kinds.take 2 = e.kind :: (e.inner?.map IoError.kind).toList := by
  cases e with
  | wrapped kind inner =>
    obtain ⟨below, hbelow⟩ := List.head?_eq_some_iff.mp inner.head?_kinds
    rw [kinds, hbelow]
    rfl
  | _ => rfl

/-- The kinds that count are the first two. -/
theorem saysEarlyEnd_iff :
    e.saysEarlyEnd = true ↔
      .unexpectedEof ∈ e.kinds.take 2 ∨ e.NamesPrematureEof := by
  rw [saysEarlyEnd, Bool.or_eq_true, Text.hasInfix_iff, ← NamesPrematureEof, take_kinds,
    List.mem_cons, Bool.or_eq_true, decide_eq_true_eq, eq_comm]
  cases e.inner? <;> simp [eq_comm (b := ErrorKind.unexpectedEof)]

/-- What is said through layers: the first two kinds, from outside in, or the words
in the text of the error within. -/
theorem saysEarlyEnd_within_iff :
    (e.within layers).saysEarlyEnd = true ↔
      .unexpectedEof ∈ (layers ++ e.kinds).take 2 ∨ e.NamesPrematureEof := by
  rw [saysEarlyEnd_iff, kinds_within, namesPrematureEof_within]

/-- One layer leaves the kind of the error to be seen, and hides the kind of the one
that it wraps. -/
theorem saysEarlyEnd_wrapped (kind : ErrorKind) :
    (wrapped kind e).saysEarlyEnd = true ↔
      kind = .unexpectedEof ∨ e.kind = .unexpectedEof ∨ e.NamesPrematureEof := by
  obtain ⟨below, hbelow⟩ := List.head?_eq_some_iff.mp e.head?_kinds
  have h := e.saysEarlyEnd_within_iff [kind]
  rw [hbelow] at h
  refine h.trans ?_
  show .unexpectedEof ∈ [kind, e.kind] ∨ _ ↔ _
  rw [List.mem_cons, List.mem_singleton, or_assoc, @eq_comm _ _ kind,
    @eq_comm _ _ e.kind]

/-- Wrapping an error that says that a stream ended early leaves that to be seen just
when the kind of the new error says it, or the own kind of the wrapped one, or its
text; what only the error within it says is lost. Through every number of layers it
is seen just when the text says it. -/
theorem saysEarlyEnd_wrapped_iff :
    (∀ kind, (wrapped kind e).saysEarlyEnd = true ↔
      kind = .unexpectedEof ∨ e.kind = .unexpectedEof ∨ e.NamesPrematureEof) ∧
    ((∀ kind, (wrapped kind e).saysEarlyEnd = true) ↔
      e.kind = .unexpectedEof ∨ e.NamesPrematureEof) ∧
    ((∀ layers, (e.within layers).saysEarlyEnd = true) ↔ e.NamesPrematureEof) := by
  refine ⟨e.saysEarlyEnd_wrapped, ?_, ?_⟩
  · constructor
    · intro h
      exact ((e.saysEarlyEnd_wrapped .other).mp (h .other)).resolve_left (by decide)
    · intro h kind
      exact (e.saysEarlyEnd_wrapped kind).mpr (.inr h)
  · constructor
    · intro h
      have hdeep := (e.saysEarlyEnd_within_iff [.other, .other]).mp (h _)
      exact hdeep.resolve_left
        (show .unexpectedEof ∉ [ErrorKind.other, ErrorKind.other] by decide)
    · intro h layers
      exact (e.saysEarlyEnd_within_iff layers).mpr (.inr h)

/-- In a second layer the end of the stream is no longer seen. -/
theorem saysEarlyEnd_second_layer :
    (wrapped .other (bare .unexpectedEof)).saysEarlyEnd = true ∧
    (wrapped .other (wrapped .other (bare .unexpectedEof))).saysEarlyEnd = false := by
  decide +kernel

end HttpExchange.IoError
