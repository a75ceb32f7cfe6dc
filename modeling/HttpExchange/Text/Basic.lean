/-! Text and bytes. A text is the list of its Unicode scalar values and a byte
string the list of its bytes, so that every function here is a recursion over
the data. The cutting functions come in two kinds: at a separator character
(`cut?`, `split`) and at an occurrence of a whole text (`cutAt?`,
`cutAtLast?`). The lemmas at the end say that cutting loses nothing, that a text
splits at each separator into what its parts split into, and that `join` and
`split` undo each other. -/

namespace HttpExchange

/-- A sequence of Unicode scalar values. -/
abbrev Text := List Char

/-- A sequence of octets. -/
abbrev Bytes := List UInt8

namespace Text

/-- The text before and after the first `sep`, or `none` when there is no
`sep`. -/
def cut? (sep : Char) : Text → Option (Text × Text)
  | [] => none
  | c :: rest =>
    if c = sep then some ([], rest)
    else (cut? sep rest).map fun (before, after) => (c :: before, after)

/-- The pieces between the separators, in order. There is always one piece more
than there are separators. -/
def split (sep : Char) : Text → List Text
  | [] => [[]]
  | c :: rest =>
    if c = sep then [] :: split sep rest
    else match split sep rest with
      | [] => [[c]]
      | piece :: pieces => (c :: piece) :: pieces

/-- The pieces joined with a separator between neighbours. -/
def join (sep : Char) (pieces : List Text) : Text :=
  [sep].intercalate pieces

/-- The text before and after the leftmost occurrence of `needle`. -/
def cutAt? (needle : Text) : Text → Option (Text × Text)
  | [] => if needle.isEmpty then some ([], []) else none
  | c :: rest =>
    if needle.isPrefixOf (c :: rest) then
      some ([], (c :: rest).drop needle.length)
    else (cutAt? needle rest).map fun (before, after) => (c :: before, after)

/-- The text before and after the rightmost occurrence of `needle`. -/
def cutAtLast? (needle : Text) : Text → Option (Text × Text)
  | [] => if needle.isEmpty then some ([], []) else none
  | c :: rest =>
    match cutAtLast? needle rest with
    | some (before, after) => some (c :: before, after)
    | none =>
      if needle.isPrefixOf (c :: rest) then
        some ([], (c :: rest).drop needle.length)
      else none

/-- Whether `needle` occurs in the text. -/
def hasInfix (needle t : Text) : Bool :=
  (cutAt? needle t).isSome

/-- The text with the upper-case ASCII letters made lower-case. -/
def lowerAscii (t : Text) : Text :=
  t.map Char.toLower

/-- The text of a numeral in decimal digits. -/
def ofNat (n : Nat) : Text :=
  Nat.toDigits 10 n

/-- Each character as one octet. It is the written form of a text only where
all its characters are ASCII. -/
def asciiBytes (t : Text) : Bytes :=
  t.map fun c => UInt8.ofNat c.toNat

theorem cut?_eq_some {sep : Char} {t before after : Text}
    (h : cut? sep t = some (before, after)) :
    t = before ++ sep :: after ∧ sep ∉ before := by
  induction t generalizing before with
  | nil => simp [cut?] at h
  | cons c rest ih =>
    by_cases hc : c = sep
    · simp only [cut?, hc, if_true, Option.some.injEq, Prod.mk.injEq] at h
      obtain ⟨rfl, rfl⟩ := h
      simp [hc]
    · simp only [cut?, if_neg hc, Option.map_eq_some_iff] at h
      obtain ⟨⟨b, a⟩, hr, heq⟩ := h
      simp only [Prod.mk.injEq] at heq
      obtain ⟨rfl, rfl⟩ := heq
      obtain ⟨rfl, hb⟩ := ih hr
      exact ⟨rfl, by simp [hb, Ne.symm hc]⟩

theorem cut?_eq_none_iff {sep : Char} {t : Text} :
    cut? sep t = none ↔ sep ∉ t := by
  induction t with
  | nil => simp [cut?]
  | cons c rest ih =>
    by_cases hc : c = sep
    · simp [cut?, hc]
    · simp [cut?, if_neg hc, ih, Ne.symm hc]

theorem cut?_append {sep : Char} {before after : Text} (h : sep ∉ before) :
    cut? sep (before ++ sep :: after) = some (before, after) := by
  induction before with
  | nil => simp [cut?]
  | cons c rest ih =>
    simp only [List.mem_cons, not_or] at h
    simp [cut?, Ne.symm h.1, ih h.2]

theorem split_ne_nil (sep : Char) (t : Text) : split sep t ≠ [] := by
  cases t with
  | nil => simp [split]
  | cons c rest =>
    simp only [split]
    split
    · simp
    · split <;> simp

theorem join_nil (sep : Char) : join sep [] = [] := rfl

theorem join_singleton (sep : Char) (piece : Text) : join sep [piece] = piece := by
  simp [join, List.intercalate]

theorem join_cons_cons (sep : Char) (first next : Text) (others : List Text) :
    join sep (first :: next :: others) =
      first ++ sep :: join sep (next :: others) := by
  simp [join, List.intercalate]

/-- What the first piece begins with is what the joined text begins with. -/
theorem join_append_cons (sep : Char) (start first : Text) (others : List Text) :
    join sep ((start ++ first) :: others) = start ++ join sep (first :: others) := by
  cases others with
  | nil => rw [join_singleton, join_singleton]
  | cons next rest => rw [join_cons_cons, join_cons_cons, List.append_assoc]

theorem mem_join_of_mem {sep c : Char} {pieces : List Text} {piece : Text}
    (h : piece ∈ pieces) (hc : c ∈ piece) : c ∈ join sep pieces := by
  induction pieces with
  | nil => cases h
  | cons first rest ih =>
    cases rest with
    | nil =>
      obtain rfl := List.mem_singleton.mp h
      rwa [join_singleton]
    | cons next others =>
      rw [join_cons_cons, List.mem_append, List.mem_cons]
      rcases List.mem_cons.mp h with rfl | h
      · exact .inl hc
      · exact .inr (.inr (ih h))

theorem mem_of_mem_join {sep c : Char} {pieces : List Text}
    (h : c ∈ join sep pieces) : c = sep ∨ ∃ piece ∈ pieces, c ∈ piece := by
  induction pieces with
  | nil => cases h
  | cons first rest ih =>
    cases rest with
    | nil =>
      rw [join_singleton] at h
      exact .inr ⟨first, List.mem_cons_self, h⟩
    | cons next others =>
      rw [join_cons_cons, List.mem_append, List.mem_cons] at h
      rcases h with h | h | h
      · exact .inr ⟨first, List.mem_cons_self, h⟩
      · exact .inl h
      · rcases ih h with h | ⟨piece, hpiece, h⟩
        · exact .inl h
        · exact .inr ⟨piece, List.mem_cons_of_mem first hpiece, h⟩

/-- Pieces that are joined can be parted at any of the separators. -/
theorem join_append {sep : Char} {pieces others : List Text} (hne : pieces ≠ [])
    (hothers : others ≠ []) :
    join sep (pieces ++ others) = join sep pieces ++ sep :: join sep others := by
  induction pieces with
  | nil => exact absurd rfl hne
  | cons first rest ih =>
    cases rest with
    | nil =>
      obtain ⟨next, later, rfl⟩ := List.exists_cons_of_ne_nil hothers
      rw [join_singleton]
      exact join_cons_cons sep first next later
    | cons next rest =>
      have hrest := ih (by simp)
      rw [List.cons_append] at hrest
      rw [List.cons_append, List.cons_append, join_cons_cons, hrest,
        join_cons_cons, List.append_assoc, List.cons_append]

/-- A joined text ends as its last piece does. -/
theorem getLast?_join {sep : Char} {pieces : List Text} {last : Text}
    (h : pieces.getLast? = some last) (hne : last ≠ []) :
    (join sep pieces).getLast? = last.getLast? := by
  obtain ⟨init, rfl⟩ := List.getLast?_eq_some_iff.mp h
  by_cases hinit : init = []
  · subst hinit
    rw [List.nil_append, join_singleton]
  · rw [join_append hinit (by simp), join_singleton, List.getLast?_append,
      List.getLast?_cons]
    cases hlast : last.getLast? with
    | none => exact absurd (List.getLast?_eq_none_iff.mp hlast) hne
    | some c => rfl

theorem join_split (sep : Char) (t : Text) : join sep (split sep t) = t := by
  induction t with
  | nil => rfl
  | cons c rest ih =>
    obtain ⟨piece, pieces, hs⟩ := List.exists_cons_of_ne_nil (split_ne_nil sep rest)
    rw [split, hs]
    rw [hs] at ih
    split
    · next hc =>
      rw [join_cons_cons, ih, hc]
      rfl
    · cases pieces with
      | nil =>
        rw [join_singleton] at ih ⊢
        rw [ih]
      | cons next others =>
        rw [join_cons_cons] at ih ⊢
        rw [List.cons_append, ih]

theorem not_mem_of_mem_split {sep : Char} {t piece : Text}
    (h : piece ∈ split sep t) : sep ∉ piece := by
  induction t generalizing piece with
  | nil => simp_all [split]
  | cons c rest ih =>
    simp only [split] at h
    split at h
    · rcases List.mem_cons.mp h with rfl | h
      · simp
      · exact ih h
    · next hc =>
      cases hs : split sep rest with
      | nil => exact absurd hs (split_ne_nil sep rest)
      | cons first others =>
        rw [hs] at h ih
        rcases List.mem_cons.mp h with rfl | h
        · simp [Ne.symm hc, ih (List.mem_cons_self)]
        · exact ih (List.mem_cons_of_mem _ h)

/-- A text without separators is one piece. -/
theorem split_of_not_mem {sep : Char} {t : Text} (h : sep ∉ t) :
    split sep t = [t] := by
  induction t with
  | nil => rfl
  | cons c rest ih =>
    simp only [List.mem_cons, not_or] at h
    simp [split, Ne.symm h.1, ih h.2]

/-- A separator parts the pieces of what is before it from those of what is
after it. -/
theorem split_append_sep (sep : Char) (before after : Text) :
    split sep (before ++ sep :: after) = split sep before ++ split sep after := by
  induction before with
  | nil => simp [split]
  | cons c rest ih =>
    simp only [List.cons_append, split, ih]
    split
    · rfl
    · obtain ⟨piece, pieces, hs⟩ :=
        List.exists_cons_of_ne_nil (split_ne_nil sep rest)
      simp [hs]

theorem split_join {sep : Char} {pieces : List Text} (hne : pieces ≠ [])
    (h : ∀ piece ∈ pieces, sep ∉ piece) : split sep (join sep pieces) = pieces := by
  induction pieces with
  | nil => exact absurd rfl hne
  | cons first others ih =>
    have hfirst : sep ∉ first := h first List.mem_cons_self
    cases others with
    | nil =>
      rw [join_singleton]
      exact split_of_not_mem hfirst
    | cons next rest =>
      rw [join_cons_cons, split_append_sep, split_of_not_mem hfirst,
        ih (by simp) fun piece hp => h piece (List.mem_cons_of_mem _ hp)]
      rfl

end Text

end HttpExchange
