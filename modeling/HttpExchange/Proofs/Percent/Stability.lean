import HttpExchange.Proofs.Percent.Meaning

/-! Written text stays as it is. The sets for raw text are printable ASCII, so a
charset that keeps ASCII writes their characters as themselves, run by run; and
escapes are never touched. What has been written therefore is its own written
form. -/

namespace HttpExchange

namespace LiteralSet

/-- A set of printable characters of ASCII. -/
def IsPrintable (set : LiteralSet) : Prop :=
  ∀ c, set.contains c = true → Text.isPrintableAscii c = true

/-- A set is printable if its marks are. -/
theorem isPrintable_of_marks {set : LiteralSet}
    (h : set.marks.all Text.isPrintableAscii = true) : set.IsPrintable := by
  intro c hc
  rw [contains, Bool.or_eq_true] at hc
  rcases hc with hc | hc
  · have hrange := toNat_of_isAlphanum hc
    simp only [Text.isPrintableAscii, Bool.and_eq_true, decide_eq_true_eq]
    omega
  · exact List.all_eq_true.mp h c (List.contains_iff_mem.mp hc)

theorem isPrintable_rawName : rawName.IsPrintable := isPrintable_of_marks rfl

theorem isPrintable_rawValue : rawValue.IsPrintable := isPrintable_of_marks rfl

theorem IsPrintable.isAscii {set : LiteralSet} (h : set.IsPrintable) :
    set.IsAscii := by
  intro c hc
  have hprint := h c hc
  simp only [Text.isPrintableAscii, Bool.and_eq_true, decide_eq_true_eq]
    at hprint
  omega

end LiteralSet

namespace Percent

variable {set : LiteralSet} {cs : Charset}

/-- A literal character is written as itself. -/
theorem writeByte_ofNat {c : Char} (hc : set.contains c = true)
    (hlow : c.toNat < 0x80) : writeByte set (.ofNat c.toNat) = [c] := by
  rw [writeByte, Utf8.ofNat_toNat_ofNat hlow, if_pos hc]

/-- A run of literal characters is written as itself. -/
theorem writeData_eq_self (hcs : cs.KeepsAscii) (hset : set.IsPrintable)
    {run : Text} (hrun : ∀ c ∈ run, set.contains c = true) :
    writeData set cs run = run := by
  have hprint : run.all Text.isPrintableAscii = true :=
    List.all_eq_true.mpr fun c hc => hset c (hrun c hc)
  rw [writeData, hcs run hprint, writeBytes, Text.asciiBytes, List.flatMap_map]
  calc run.flatMap (fun c => writeByte set (.ofNat c.toNat))
      = run.flatMap (fun c => [c]) := by
        refine List.flatMap_congr fun c hc => ?_
        exact writeByte_ofNat (hrun c hc) (hset.isAscii c (hrun c hc))
    _ = run := List.flatMap_singleton' run

/-- Written text after a run of literal characters stays as it is. -/
theorem writeRuns_eq_self (hcs : cs.KeepsAscii) (hset : set.IsPrintable)
    (hsign : set.contains '%' = false) {run t : Text}
    (hrun : ∀ c ∈ run, set.contains c = true) (h : Written set t) :
    writeRuns set cs run t = run ++ t := by
  induction h generalizing run with
  | nil => rw [writeRuns, writeData_eq_self hcs hset hrun, List.append_nil]
  | @literal c t hc _ ih =>
    have hlonger : ∀ d ∈ run ++ [c], set.contains d = true := by
      intro d hd
      rcases List.mem_append.mp hd with hd | hd
      · exact hrun d hd
      · rw [List.mem_singleton.mp hd]
        exact hc
    rw [writeRuns_char (ne_of_contains hc hsign), ih hlonger, List.append_assoc]
    rfl
  | escape ha hb _ ih =>
    rw [writeRuns_escape ha hb, writeData_eq_self hcs hset hrun, ih (by simp)]
    rfl

/-- Written text is its own written form. -/
theorem writeRaw_eq_self (hcs : cs.KeepsAscii) (hset : set.IsPrintable)
    (hsign : set.contains '%' = false) {t : Text} (h : Written set t) :
    writeRaw set cs t = t := by
  rw [writeRaw_eq_writeRuns, writeRuns_eq_self hcs hset hsign (by simp) h]
  rfl

end Percent

end HttpExchange
