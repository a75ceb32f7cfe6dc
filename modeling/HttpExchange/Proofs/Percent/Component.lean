import HttpExchange.Percent.Written
import HttpExchange.Proofs.Percent.Pieces

/-! Components as text. `writeRaw` needs no spans: `writeRuns` is the same pass with
the run under way as text. Whatever the charset, what it writes is `Written`, and a
written text holds neither a broken escape nor a character that its set leaves out. -/

namespace HttpExchange.Percent

/-! ## Runs -/

/-- Raw text in a charset, after a run that is still under way. -/
def writeRuns (set : LiteralSet) (cs : Charset) (run : Text) : Text → Text
  | [] => writeData set cs run
  | c :: rest =>
    if c = '%' then
      match rest with
      | a :: b :: tail =>
        if Hex.isDigit a && Hex.isDigit b then
          writeData set cs run ++ '%' :: a :: b :: writeRuns set cs [] tail
        else
          writeData set cs run ++ '%' :: '2' :: '5' ::
            writeRuns set cs [] (a :: b :: tail)
      | other =>
        writeData set cs run ++ '%' :: '2' :: '5' :: writeRuns set cs [] other
    else writeRuns set cs (run ++ [c]) rest

variable {set : LiteralSet} {cs : Charset} {run : Text}

theorem writeRuns_escape {a b : Char} {t : Text} (ha : Hex.isDigit a = true)
    (hb : Hex.isDigit b = true) :
    writeRuns set cs run ('%' :: a :: b :: t) =
      writeData set cs run ++ '%' :: a :: b :: writeRuns set cs [] t := by
  simp [writeRuns, ha, hb]

theorem writeRuns_stray {t : Text} (h : escaped? t = none) :
    writeRuns set cs run ('%' :: t) =
      writeData set cs run ++ '%' :: '2' :: '5' :: writeRuns set cs [] t := by
  match t with
  | [] => rfl
  | [_] => rfl
  | a :: b :: t =>
    have hd := escaped?_eq_none_iff.mp h
    simp [writeRuns, hd]

theorem writeRuns_char {c : Char} {t : Text} (h : c ≠ '%') :
    writeRuns set cs run (c :: t) = writeRuns set cs (run ++ [c]) t := by
  match t with
  | [] => simp [writeRuns, h]
  | [_] => simp [writeRuns, h]
  | _ :: _ :: _ => simp [writeRuns, h]

/-- Characters other than `%` go to the run under way. -/
theorem writeRuns_append {more : Text} (h : '%' ∉ more) (t : Text) :
    writeRuns set cs run (more ++ t) = writeRuns set cs (run ++ more) t := by
  induction more generalizing run with
  | nil => rw [List.nil_append, List.append_nil]
  | cons c more ih =>
    rw [List.mem_cons, not_or] at h
    rw [List.cons_append, writeRuns_char (Ne.symm h.1), ih h.2, List.append_assoc,
      List.singleton_append]

/-- What is written of the pieces of a text. -/
theorem Cuts.flatMap_write {before t : Text} {pieces : List Piece}
    (h : Cuts before pieces t) :
    pieces.flatMap (Piece.write set cs (before ++ t)) = writeRuns set cs [] t := by
  induction h with
  | @last before run hrun =>
    have hslice := Span.slice_behind before run []
    have hwrite := @writeRuns_append set cs [] run hrun []
    rw [List.append_nil] at hslice hwrite
    rw [hwrite, List.flatMap_singleton, Piece.write, hslice]
    rfl
  | @escape before run a b _ rest hrun ha hb _ ih =>
    have hslice := Span.slice_behind before run (['%', a, b] ++ rest)
    have hsign := Span.slice_behind (before ++ run) ['%', a, b] rest
    simp only [List.append_assoc] at ih hslice hsign ⊢
    rw [List.flatMap_cons, List.flatMap_cons, ih, Piece.write, Piece.write, hslice,
      hsign, writeRuns_append hrun]
    exact (writeRuns_escape ha hb).symm
  | @stray before run _ rest hrun he _ ih =>
    have hslice := Span.slice_behind before run (['%'] ++ rest)
    simp only [List.append_assoc] at ih hslice ⊢
    rw [List.flatMap_cons, List.flatMap_cons, ih, Piece.write, Piece.write, hslice,
      writeRuns_append hrun]
    exact (writeRuns_stray he).symm

/-- Writing raw text needs no spans. -/
theorem writeRaw_eq_writeRuns (set : LiteralSet) (cs : Charset) (t : Text) :
    writeRaw set cs t = writeRuns set cs [] t :=
  (cuts_pieces t).flatMap_write

/-! ## What is written -/

theorem written_escape (b : UInt8) : Written set (escape b) := by
  have hb := b.toNat_lt
  exact .escape (Hex.isDigit_digit (by omega)) (Hex.isDigit_digit (by omega))
    .nil

theorem written_writeByte (set : LiteralSet) (b : UInt8) :
    Written set (writeByte set b) := by
  rw [writeByte]
  split
  · next hb => exact .literal hb .nil
  · exact written_escape b

/-- Bytes that are written out one by one are written out. -/
theorem written_flatMap {write : UInt8 → Text} (h : ∀ b, Written set (write b))
    (bytes : Bytes) : Written set (bytes.flatMap write) := by
  induction bytes with
  | nil => exact .nil
  | cons b rest ih =>
    rw [List.flatMap_cons]
    exact Written.append (h b) ih

/-- Whatever the bytes, what is written of them is literal or an escape. -/
theorem written_writeBytes (set : LiteralSet) (bytes : Bytes) :
    Written set (writeBytes set bytes) :=
  written_flatMap (written_writeByte set) bytes

theorem written_writeRuns (set : LiteralSet) (cs : Charset) (run t : Text) :
    Written set (writeRuns set cs run t) := by
  induction t using escape_induction generalizing run with
  | nil => exact written_writeBytes set _
  | escape a b t ha hb ih =>
    rw [writeRuns_escape ha hb]
    exact Written.append (written_writeBytes set _) (.escape ha hb (ih []))
  | stray t he ih =>
    rw [writeRuns_stray he]
    exact Written.append (written_writeBytes set _)
      (.escape rfl rfl (ih []))
  | char c t hc ih =>
    rw [writeRuns_char hc]
    exact ih _

/-- Raw text is written out in any charset. -/
theorem written_writeRaw (set : LiteralSet) (cs : Charset) (t : Text) :
    Written set (writeRaw set cs t) := by
  rw [writeRaw_eq_writeRuns]
  exact written_writeRuns set cs [] t

/-- Data is written out in any charset. -/
theorem written_writeData (set : LiteralSet) (cs : Charset) (t : Text) :
    Written set (writeData set cs t) :=
  written_writeBytes set _

/-! ## What a written text holds -/

/-- A character of a set is none that the set leaves out. -/
theorem ne_of_contains {c d : Char} (hc : set.contains c = true)
    (hd : set.contains d = false) : c ≠ d := by
  rintro rfl
  rw [hc] at hd
  cases hd

/-- A character that the set leaves out occurs only as part of an escape. -/
theorem Written.not_mem {sep : Char} {t : Text} (h : Written set t)
    (hset : set.contains sep = false) (hsign : sep ≠ '%')
    (hdigit : Hex.isDigit sep = false) : sep ∉ t := by
  have hne : ∀ {c : Char}, Hex.isDigit c = true → sep ≠ c := by
    intro c hc heq
    rw [heq, hc] at hdigit
    cases hdigit
  induction h with
  | nil => simp
  | literal hc _ ih => simp [(ne_of_contains hc hset).symm, ih]
  | escape ha hb _ ih => simp [hsign, hne ha, hne hb, ih]

theorem brokenEscape?_char {c : Char} {t : Text} (h : c ≠ '%') :
    brokenEscape? (c :: t) = brokenEscape? t := by
  rw [brokenEscape?, if_neg fun hc => h hc.1]

theorem brokenEscape?_escape {a b : Char} {t : Text}
    (ha : Hex.isDigit a = true) (hb : Hex.isDigit b = true) :
    brokenEscape? ('%' :: a :: b :: t) = brokenEscape? t := by
  have he : escaped? (a :: b :: t) ≠ none := by
    rw [Ne, escaped?_eq_none_iff, ha, hb]
    simp
  rw [brokenEscape?, if_neg fun h => he (Option.isNone_iff_eq_none.mp h.2),
    brokenEscape?_char (Hex.ne_percent_of_isDigit ha),
    brokenEscape?_char (Hex.ne_percent_of_isDigit hb)]

/-- A written text holds no broken escape. -/
theorem Written.brokenEscape?_eq_none {t : Text} (h : Written set t)
    (hset : set.contains '%' = false) : brokenEscape? t = none := by
  induction h with
  | nil => rfl
  | literal hc _ ih => rw [brokenEscape?_char (ne_of_contains hc hset), ih]
  | escape ha hb _ ih => rw [brokenEscape?_escape ha hb, ih]

end HttpExchange.Percent
