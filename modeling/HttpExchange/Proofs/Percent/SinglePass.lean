import HttpExchange.Proofs.Percent.Data

/-! Writing in UTF-8 as a single pass. `writeRaw` cuts raw text into runs and escapes
and hands whole runs to the charset; in UTF-8 that comes to one pass over the
characters, in which an escape is copied, any other `%` is escaped and every other
character stands for itself or is written as the escapes of its octets. Data is what
the same pass makes of the text once each `%` in it is an escape. -/

namespace HttpExchange

namespace LiteralSet

/-- The sets for the names and values of queries. -/
def ofQueries : List LiteralSet :=
  [rawName, rawValue, dataName, dataValue]

theorem forall_mem_ofQueries {p : LiteralSet → Prop} :
    (∀ set ∈ ofQueries, p set) ↔
      p rawName ∧ p rawValue ∧ p dataName ∧ p dataValue := by
  simp [ofQueries]

theorem isAscii_of_mem_ofQueries : ∀ set ∈ ofQueries, set.IsAscii :=
  forall_mem_ofQueries.mpr ⟨isAscii_rawName, isAscii_rawValue, isPlain_dataName.ascii,
    isPlain_dataValue.ascii⟩

theorem contains_percent_of_mem_ofQueries :
    ∀ set ∈ ofQueries, set.contains '%' = false :=
  forall_mem_ofQueries.mpr ⟨rfl, rfl, rfl, rfl⟩

end LiteralSet

namespace Percent

/-- The text with every `%` made an escape. -/
def escapeSigns (t : Text) : Text :=
  t.flatMap fun c => if c = '%' then ['%', '2', '5'] else [c]

variable {set : LiteralSet}

theorem writeChar_percent (h : set.contains '%' = false) :
    writeChar set '%' = ['%', '2', '5'] := by
  rw [writeChar, h]
  rfl

/-- The pass leaves the escapes as they are that stand for `%` signs. -/
theorem writeRawChars_escapeSigns (h : set.contains '%' = false) (t : Text) :
    writeRawChars set (escapeSigns t) = writeChars set t := by
  induction t with
  | nil => rfl
  | cons c t ih =>
    rw [escapeSigns, List.flatMap_cons, ← escapeSigns, writeChars, List.flatMap_cons,
      ← writeChars]
    by_cases hc : c = '%'
    · subst hc
      rw [if_pos rfl, writeChar_percent h, ← ih]
      exact writeRawChars_escape rfl rfl
    · rw [if_neg hc, ← ih]
      exact writeRawChars_char hc

/-- In UTF-8 and with each of the four sets, raw text is written in one pass over its
characters, and data in the same pass after every `%` has been made an escape. The
cutting into runs comes to an end after one round for each `%`, and all that it takes
out lies between characters. -/
theorem write_utf8_single_pass (t : Text) (set : LiteralSet)
    (hset : set ∈ LiteralSet.ofQueries) :
    writeRaw set .utf8 t = writeRawChars set t ∧
    writeData set .utf8 t = writeRawChars set (escapeSigns t) ∧
    writeRawChars set (escapeSigns t) = writeChars set t ∧
    Cuts [] (pieces t) t ∧ (pieces t).length = 2 * t.count '%' + 1 ∧
    ∀ piece ∈ pieces t, piece.span.Fits t := by
  have hascii := LiteralSet.isAscii_of_mem_ofQueries set hset
  have hdata := writeRawChars_escapeSigns
    (LiteralSet.contains_percent_of_mem_ofQueries set hset) t
  have hcuts := cuts_pieces t
  exact ⟨writeRaw_utf8 hascii t, (writeData_utf8 hascii t).trans hdata.symm, hdata,
    hcuts, hcuts.length_eq, hcuts.fits⟩

/-- Escapes that overlap or are cut short, a `%` before a character of three octets
and one at the end. -/
theorem write_utf8_single_pass_overlapping :
    LiteralSet.dataValue ∈ LiteralSet.ofQueries ∧
    writeRaw .dataValue .utf8 "%%4142%4%aF%三+%".toList =
      "%25%4142%254%aF%25%E4%B8%89%2B%25".toList ∧
    writeData .dataValue .utf8 "%%4142%4%aF%三+%".toList =
      "%25%254142%254%25aF%25%E4%B8%89%2B%25".toList ∧
    (pieces "%%4142%4%aF%三+%".toList).length = 13 := by
  have hset : LiteralSet.dataValue ∈ LiteralSet.ofQueries := by
    simp [LiteralSet.ofQueries]
  obtain ⟨hraw, hdata, -, -, hlength, -⟩ :=
    write_utf8_single_pass "%%4142%4%aF%三+%".toList .dataValue hset
  exact ⟨hset, hraw.trans (by decide +kernel), hdata.trans (by decide +kernel),
    hlength⟩

end Percent

end HttpExchange
