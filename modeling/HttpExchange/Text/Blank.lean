import HttpExchange.Text.Basic

/-! Blank characters and trimming. A character is blank when it has the Unicode
property White_Space: the five ASCII controls from tab to carriage return, the
space, and nineteen characters beyond ASCII. -/

namespace HttpExchange.Text

/-- The code points with the property White_Space, as inclusive ranges. -/
def blankRanges : List (Nat × Nat) :=
  [(0x09, 0x0D), (0x20, 0x20), (0x85, 0x85), (0xA0, 0xA0), (0x1680, 0x1680),
   (0x2000, 0x200A), (0x2028, 0x2029), (0x202F, 0x202F), (0x205F, 0x205F),
   (0x3000, 0x3000)]

/-- Whether the character has the property White_Space. -/
def isBlank (c : Char) : Bool :=
  blankRanges.any fun (low, high) => low ≤ c.toNat && c.toNat ≤ high

/-- Whether the character is white space to the web standards: tab, line feed,
form feed, carriage return or space. -/
def isAsciiBlank (c : Char) : Bool :=
  c = '\t' || c = '\n' || c = '\x0c' || c = '\r' || c = ' '

/-- The text without the characters at its end that satisfy `p`. -/
def dropEndWhile (p : Char → Bool) (t : Text) : Text :=
  (t.reverse.dropWhile p).reverse

/-- The text without the characters at both ends that satisfy `p`. -/
def trimBy (p : Char → Bool) (t : Text) : Text :=
  dropEndWhile p (t.dropWhile p)

/-- The text without the blank characters at both ends. -/
def trim (t : Text) : Text :=
  trimBy isBlank t

/-- Whether the text holds nothing but blank characters. -/
def allBlank (t : Text) : Bool :=
  t.all isBlank

example : (blankRanges.map fun (low, high) => high + 1 - low).sum = 25 := by
  decide

/-- No character between the space and the delete character is blank. -/
theorem isBlank_of_toNat {c : Char} (hlow : 0x20 < c.toNat)
    (hhigh : c.toNat < 0x7F) : isBlank c = false := by
  simp only [isBlank, blankRanges, List.any_cons, List.any_nil,
    Bool.or_eq_false_iff, Bool.and_eq_false_iff, decide_eq_false_iff_not, and_true]
  omega

/-- A blank text without blank characters is empty. -/
theorem eq_nil_of_allBlank {t : Text} (ht : ∀ c ∈ t, isBlank c = false)
    (hblank : allBlank t = true) : t = [] := by
  cases t with
  | nil => rfl
  | cons c rest =>
    rw [allBlank, List.all_cons, ht c List.mem_cons_self] at hblank
    cases hblank

theorem dropWhile_eq_nil {p : Char → Bool} {t : Text} :
    t.dropWhile p = [] ↔ ∀ c ∈ t, p c = true := by
  induction t with
  | nil => simp
  | cons c rest ih =>
    cases hc : p c with
    | true => simp [hc, ih]
    | false => simp [hc]

theorem dropEndWhile_eq_nil_iff {p : Char → Bool} {t : Text} :
    dropEndWhile p t = [] ↔ ∀ c ∈ t, p c = true := by
  rw [dropEndWhile, List.reverse_eq_nil_iff, dropWhile_eq_nil]
  exact ⟨fun h c hc => h c (List.mem_reverse.mpr hc),
    fun h c hc => h c (List.mem_reverse.mp hc)⟩

/-- Nothing is left of a text exactly when all of it is trimmed. -/
theorem trimBy_eq_nil_iff {p : Char → Bool} {t : Text} :
    trimBy p t = [] ↔ ∀ c ∈ t, p c = true := by
  rw [trimBy, dropEndWhile_eq_nil_iff]
  induction t with
  | nil => simp
  | cons c rest ih =>
    cases hc : p c with
    | true => simp [hc, ih]
    | false => simp [hc]

theorem trim_eq_nil_iff {t : Text} : trim t = [] ↔ allBlank t = true := by
  simp [trim, trimBy_eq_nil_iff, allBlank]

end HttpExchange.Text
