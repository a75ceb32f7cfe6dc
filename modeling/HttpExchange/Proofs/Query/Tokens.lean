import HttpExchange.Query.Normal
import HttpExchange.Query.Reader
import Mathlib.Data.List.Forall2

/-! The scanner and the plain definition of a token. The scanner of
`Query.tokens` carries offsets over the whole text; the reader cuts the text at
every `&` and each piece at its first `=`. Both see the same tokens: what the
scanner notes are spans that fit the text, and what they take are the parts that
the reader cuts. `Scan` tells a state of the scanner in texts instead of offsets;
`Scan.tokens_cons` and `Scan.tokenTexts_cons` say what one character does to the
scanner and to the plain definition, and the rest follows by induction on what is
still to be read. -/

namespace HttpExchange.Query

open QueryReader (tokenParts tokenTexts)

/-! ## The tokens of a text -/

/-- A `&` parts the tokens before it from those after it. -/
theorem tokenTexts_append_amp (before after : Text) :
    tokenTexts (before ++ '&' :: after) =
      tokenTexts before ++ tokenTexts after := by
  rw [tokenTexts, Text.split_append_sep, List.filter_append]
  rfl

/-- A text without `&` that is not empty is one token. -/
theorem tokenTexts_of_not_mem {t : Text} (h : '&' ∉ t) (hne : t ≠ []) :
    tokenTexts t = [t] := by
  rw [tokenTexts, Text.split_of_not_mem h]
  cases t with
  | nil => exact absurd rfl hne
  | cons c rest => rfl

/-- Tokens that are joined are found again. -/
theorem tokenTexts_join {pieces : List Text}
    (h : ∀ piece ∈ pieces, '&' ∉ piece ∧ piece ≠ []) :
    tokenTexts (Text.join '&' pieces) = pieces := by
  by_cases hne : pieces = []
  · subst hne
    rfl
  · rw [tokenTexts, Text.split_join hne fun piece hp => (h piece hp).1]
    rw [List.filter_eq_self]
    intro piece hp
    simpa using (h piece hp).2

/-- A name ends at the first `=`. -/
theorem tokenParts_append {name value : Text} (h : '=' ∉ name) :
    tokenParts (name ++ '=' :: value) = (name, value) := by
  simp [tokenParts, Text.cut?_append h]

/-- A token without `=` is all name. -/
theorem tokenParts_of_not_mem {t : Text} (h : '=' ∉ t) :
    tokenParts t = (t, []) := by
  simp [tokenParts, Text.cut?_eq_none_iff.mpr h]

/-! ## What the scanner notes -/

/-- Both spans of the token fit the text, and they take the parts of
`written`. -/
structure Token.Denotes (raw : Text) (token : Token) (written : Text) :
    Prop where
  nameFits : token.name.Fits raw
  valueFits : token.value.Fits raw
  parts : tokenParts written = (raw.slice token.name, raw.slice token.value)

/-- The token under way: its name, if an `=` has ended it, and the piece read
since. -/
def underWay (name : Option Text) (piece : Text) : Text :=
  match name with
  | none => piece
  | some name => name ++ '=' :: piece

/-- The span of a name that begins after `before`. -/
def nameSpan (before name : Text) : Span :=
  ⟨Utf8.length before, Utf8.length before + Utf8.length name⟩

@[simp] theorem underWay_none (piece : Text) : underWay none piece = piece :=
  rfl

@[simp] theorem underWay_some (name piece : Text) :
    underWay (some name) piece = name ++ '=' :: piece := rfl

theorem underWay_append (name : Option Text) (piece rest : Text) :
    underWay name (piece ++ rest) = underWay name piece ++ rest := by
  cases name <;> simp [underWay]

private theorem size_equals : Utf8.size '=' = 1 := rfl

private theorem size_ampersand : Utf8.size '&' = 1 := rfl

private theorem length_ne_zero {t : Text} (h : t ≠ []) :
    Utf8.length t ≠ 0 := by
  obtain ⟨c, rest, rfl⟩ := List.exists_cons_of_ne_nil h
  have := Utf8.size_pos c
  rw [Utf8.length_cons]
  omega

/-- A token without `=` that the scanner closes denotes the text of it. -/
theorem closeToken_none_denotes {before piece after : Text}
    (hname : '=' ∉ piece) (hamp : '&' ∉ piece) :
    List.Forall₂ (Token.Denotes (before ++ piece ++ after))
      (closeToken (Utf8.length before) (Utf8.length (before ++ piece)) none)
      (tokenTexts piece) := by
  rw [closeToken, Utf8.length_append]
  by_cases hp : piece = []
  · subst hp
    simp [tokenTexts, Text.split]
  · have hlen := length_ne_zero hp
    rw [if_neg (by omega), tokenTexts_of_not_mem hamp hp]
    have hend := Text.fits_append (before ++ piece) [] after
    have hslice := Text.slice_append (before ++ piece) [] after
    simp only [List.append_nil, Utf8.length_append, Utf8.length_nil,
      Nat.add_zero] at hend hslice
    refine .cons ⟨Text.fits_append before piece after, hend, ?_⟩ .nil
    rw [tokenParts_of_not_mem hname, Text.slice_append, hslice]

/-- A token with a name that the scanner closes denotes the text of it. -/
theorem closeToken_some_denotes {before name piece after : Text}
    (hname : '=' ∉ name) (hamp : '&' ∉ name ++ '=' :: piece) :
    List.Forall₂ (Token.Denotes (before ++ (name ++ '=' :: piece) ++ after))
      (closeToken (Utf8.length (before ++ name ++ ['=']))
        (Utf8.length (before ++ name ++ ['='] ++ piece))
        (some (nameSpan before name)))
      (tokenTexts (name ++ '=' :: piece)) := by
  rw [tokenTexts_of_not_mem hamp (by simp), closeToken]
  have hfits := Text.fits_append before name ('=' :: piece ++ after)
  have hslice := Text.slice_append before name ('=' :: piece ++ after)
  have hfits' := Text.fits_append (before ++ name ++ ['=']) piece after
  have hslice' := Text.slice_append (before ++ name ++ ['=']) piece after
  rw [← Utf8.length_append] at hfits' hslice'
  simp only [List.append_assoc, List.cons_append, List.nil_append]
    at hfits hslice hfits' hslice' ⊢
  refine .cons ⟨hfits, hfits', ?_⟩ .nil
  rw [tokenParts_append hname, nameSpan, hslice, hslice']

/-- A token that the scanner closes denotes the text of it. -/
theorem closeToken_denotes {before piece after : Text} {name : Option Text}
    (hname : '=' ∉ name.getD piece) (hamp : '&' ∉ underWay name piece) :
    List.Forall₂ (Token.Denotes (before ++ underWay name piece ++ after))
      (closeToken (Utf8.length (before ++ underWay name []))
        (Utf8.length (before ++ underWay name piece))
        (name.map (nameSpan before)))
      (tokenTexts (underWay name piece)) := by
  cases name with
  | none =>
    rw [underWay_none, underWay_none, List.append_nil]
    exact closeToken_none_denotes hname hamp
  | some name =>
    rw [Option.getD_some] at hname
    have h := @closeToken_some_denotes before name piece after hname hamp
    simpa only [underWay_some, Option.map_some, List.append_assoc,
      List.cons_append, List.nil_append] using h

/-- A state of the scanner, told in texts: what lies before the token under way,
the name of that token if a `=` has ended it, and the piece read since. -/
structure Scan where
  before : Text
  name : Option Text
  piece : Text
  equals_not_mem : '=' ∉ name.getD piece
  amp_not_mem : '&' ∉ underWay name piece

namespace Scan

/-- Nothing has been read. -/
def begin : Scan where
  before := []
  name := none
  piece := []
  equals_not_mem := by simp
  amp_not_mem := by simp

/-- The token under way. -/
def token (s : Scan) : Text :=
  underWay s.name s.piece

/-- All that has been read. -/
def text (s : Scan) : Text :=
  s.before ++ s.token

/-- Where the piece under way lies. -/
def pieceSpan (s : Scan) : Span :=
  ⟨Utf8.length (s.before ++ underWay s.name []), Utf8.length s.text⟩

/-- Where the name of the token under way lies. -/
def nameSpan? (s : Scan) : Option Span :=
  s.name.map (nameSpan s.before)

/-- The token that ends here. -/
def close (s : Scan) : List Token :=
  closeToken s.pieceSpan.start s.pieceSpan.stop s.nameSpan?

/-- The tokens that are noted from here on. -/
def tokens (s : Scan) (rest : Text) : List Token :=
  tokensFrom s.pieceSpan.start s.pieceSpan.stop s.nameSpan? rest

/-- The state after one more character. -/
def next (s : Scan) (c : Char) : Scan :=
  if hc : c = '=' ∧ s.name.isNone then
    { before := s.before
      name := some s.piece
      piece := []
      equals_not_mem := by
        have hnone : s.name = none := by simpa using hc.2
        simpa [hnone] using s.equals_not_mem
      amp_not_mem := by
        have hnone : s.name = none := by simpa using hc.2
        simpa [hnone] using s.amp_not_mem }
  else if hc' : c = '&' then
    { before := s.text ++ ['&']
      name := none
      piece := []
      equals_not_mem := by simp
      amp_not_mem := by simp }
  else
    { before := s.before
      name := s.name
      piece := s.piece ++ [c]
      equals_not_mem := by
        have hname := s.equals_not_mem
        cases hn : s.name with
        | none =>
          have hne : c ≠ '=' := fun h => hc ⟨h, by rw [hn]; rfl⟩
          simpa [hn, hne.symm] using hname
        | some name => simpa [hn] using hname
      amp_not_mem := by
        simp [underWay_append, s.amp_not_mem, Ne.symm hc'] }

/-- One character more has been read. -/
theorem text_next (s : Scan) (c : Char) : (s.next c).text = s.text ++ [c] := by
  unfold next text token
  split
  · next hc =>
    have hnone : s.name = none := by simpa using hc.2
    simp [hnone, hc.1]
  · split
    · next hc' => simp [hc']
    · simp [underWay_append]

/-- A `&` ends the token under way; any other character goes on with it. -/
theorem tokens_cons (s : Scan) (c : Char) (rest : Text) :
    s.tokens (c :: rest) =
      (if c = '&' then s.close else []) ++ (s.next c).tokens rest := by
  have hname : s.nameSpan?.isNone = s.name.isNone := by simp [nameSpan?]
  rw [tokens, tokensFrom, hname]
  unfold next
  by_cases hc : c = '=' ∧ s.name.isNone
  · -- The name ends here, and the value begins after the sign.
    have hnone : s.name = none := by simpa using hc.2
    rw [if_pos hc, dif_pos hc]
    simp [tokens, pieceSpan, nameSpan?, text, token, hnone, hc.1, nameSpan,
      size_equals, Nat.add_assoc]
  · rw [if_neg hc, dif_neg hc]
    by_cases hc' : c = '&'
    · rw [if_pos hc', dif_pos hc', if_pos hc']
      simp [tokens, close, pieceSpan, nameSpan?, text, token, size_ampersand,
        Nat.add_assoc]
    · rw [if_neg hc', dif_neg hc', if_neg hc']
      simp [tokens, pieceSpan, nameSpan?, text, token, underWay_append,
        Nat.add_assoc]

/-- In the plain definition, too, a `&` ends the token under way. -/
theorem tokenTexts_cons (s : Scan) (c : Char) (rest : Text) :
    tokenTexts (s.token ++ c :: rest) =
      (if c = '&' then tokenTexts s.token else []) ++
        tokenTexts ((s.next c).token ++ rest) := by
  unfold next
  by_cases hc : c = '=' ∧ s.name.isNone
  · have hnone : s.name = none := by simpa using hc.2
    rw [dif_pos hc]
    simp [token, hnone, hc.1]
  · rw [dif_neg hc]
    by_cases hc' : c = '&'
    · rw [dif_pos hc', if_pos hc', hc', tokenTexts_append_amp]
      rfl
    · rw [dif_neg hc', if_neg hc']
      simp [token, underWay_append]

/-- The token that ends here denotes the text of it. -/
theorem close_denotes (s : Scan) (rest : Text) :
    List.Forall₂ (Token.Denotes (s.text ++ rest)) s.close (tokenTexts s.token) :=
  closeToken_denotes s.equals_not_mem s.amp_not_mem

/-- What the scanner notes from a state on denotes the tokens of the text, the one
under way first. -/
theorem tokens_denotes (s : Scan) (rest : Text) :
    List.Forall₂ (Token.Denotes (s.text ++ rest)) (s.tokens rest)
      (tokenTexts (s.token ++ rest)) := by
  induction rest generalizing s with
  | nil =>
    rw [List.append_nil s.token]
    exact s.close_denotes []
  | cons c rest ih =>
    have hrest := ih (s.next c)
    rw [text_next, List.append_assoc] at hrest
    rw [tokens_cons, tokenTexts_cons]
    refine List.rel_append ?_ hrest
    split
    · exact s.close_denotes (c :: rest)
    · exact .nil

/-- The state after more text has been read. -/
def after (s : Scan) (read : Text) : Scan :=
  read.foldl next s

theorem text_after (s : Scan) (read : Text) :
    (s.after read).text = s.text ++ read := by
  induction read generalizing s with
  | nil => exact (List.append_nil s.text).symm
  | cons c read ih =>
    show ((s.next c).after read).text = _
    rw [ih, text_next, List.append_assoc]
    rfl

/-- The scanner notes some tokens while it reads, and the others from the state
that it has come to. -/
theorem tokens_append (s : Scan) (read rest : Text) :
    ∃ noted, s.tokens (read ++ rest) = noted ++ (s.after read).tokens rest := by
  induction read generalizing s with
  | nil => exact ⟨[], rfl⟩
  | cons c read ih =>
    obtain ⟨noted, hnoted⟩ := ih (s.next c)
    rw [List.cons_append, tokens_cons, hnoted, ← List.append_assoc]
    exact ⟨_, rfl⟩

theorem pieceSpan_fits (s : Scan) (rest : Text) :
    s.pieceSpan.Fits (s.text ++ rest) := by
  have h := Text.fits_append (s.before ++ underWay s.name []) s.piece rest
  rw [← Utf8.length_append, List.append_assoc s.before, ← underWay_append,
    List.nil_append] at h
  exact h

theorem nameSpan?_fits {s : Scan} {span : Span} (h : s.nameSpan? = some span)
    (rest : Text) : span.Fits (s.text ++ rest) := by
  obtain ⟨name, hname, rfl⟩ := Option.map_eq_some_iff.mp h
  have hfits := Text.fits_append s.before name ('=' :: s.piece ++ rest)
  simpa [text, token, hname, nameSpan] using hfits

end Scan

/-- The scanner notes the tokens of the text, in order and with spans that
fit. -/
theorem tokens_denotes (raw : Text) :
    List.Forall₂ (Token.Denotes raw) (tokens raw) (tokenTexts raw) :=
  Scan.begin.tokens_denotes raw

/-! ## The normal form without offsets -/

/-- A token written out as `name=value`. -/
def writeToken (cs : Charset) (token : Text) : Text :=
  Percent.writeRaw .rawName cs (tokenParts token).1 ++ '=' ::
    Percent.writeRaw .rawValue cs (tokenParts token).2

/-- The normal form writes out one token after the other. -/
theorem normalize_eq_join (cs : Charset) (raw : Text) :
    normalize cs raw =
      Text.join '&' ((tokenTexts raw).map (writeToken cs)) := by
  rw [normalize]
  congr 1
  have h := tokens_denotes raw
  generalize tokens raw = noted at h
  generalize tokenTexts raw = written at h
  induction h with
  | nil => rfl
  | cons hd _ ih =>
    rw [List.map_cons, List.map_cons, ih, Token.write, writeToken, hd.parts]

/-- One pass does what the plain definition says: the normal form is the tokens of
the query that are not empty, each cut at its first `=` and both parts written
out. The spans that the pass notes fit the query and take just these parts; and
wherever it stands, the piece under way and the name before it fit as well. -/
theorem normalize_single_pass (cs : Charset) (raw : Text) :
    normalize cs raw =
      Text.join '&' ((tokenTexts raw).map fun token =>
        Percent.writeRaw .rawName cs (tokenParts token).1 ++ '=' ::
          Percent.writeRaw .rawValue cs (tokenParts token).2) ∧
    List.Forall₂ (Token.Denotes raw) (tokens raw) (tokenTexts raw) ∧
    ∀ n, let s := Scan.begin.after (raw.take n)
      s.text = raw.take n ∧
      (∃ noted, tokens raw = noted ++ s.tokens (raw.drop n)) ∧
      s.pieceSpan.Fits raw ∧ ∀ span ∈ s.nameSpan?, span.Fits raw := by
  refine ⟨normalize_eq_join cs raw, tokens_denotes raw, fun n => ?_⟩
  intro s
  have htext : s.text = raw.take n := Scan.begin.text_after (raw.take n)
  have hraw : s.text ++ raw.drop n = raw := by
    rw [htext, List.take_append_drop]
  have hnoted := Scan.begin.tokens_append (raw.take n) (raw.drop n)
  rw [List.take_append_drop] at hnoted
  have hpiece := s.pieceSpan_fits (raw.drop n)
  rw [hraw] at hpiece
  refine ⟨htext, hnoted, hpiece, fun span hspan => ?_⟩
  have hname := Scan.nameSpan?_fits hspan (raw.drop n)
  rwa [hraw] at hname

/-- Offsets count octets; a token without `=` has an empty value at its end. -/
example : tokens "é=1=&&三".toList =
    [⟨⟨0, 2⟩, ⟨3, 5⟩⟩, ⟨⟨7, 10⟩, ⟨10, 10⟩⟩] := by decide

end HttpExchange.Query
