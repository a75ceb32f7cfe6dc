import HttpExchange.Proofs.Percent.Component

/-! Broken escapes. Two predicates say what the search for one finds, without the
search: in an unbroken text two hexadecimal digits follow every `%`, and a text
breaks at its first `%` that they do not follow. -/

namespace HttpExchange

/-- Two hexadecimal digits come first in the text. -/
def Hex.Leads (t : Text) : Prop :=
  ∃ a b rest, t = a :: b :: rest ∧ isDigit a = true ∧ isDigit b = true

namespace Percent

theorem escaped?_eq_none_iff_not_leads {t : Text} :
    escaped? t = none ↔ ¬ Hex.Leads t := by
  match t with
  | [] => simp [escaped?, Hex.Leads]
  | [_] => simp [escaped?, Hex.Leads]
  | a :: b :: rest =>
    rw [escaped?_eq_none_iff, Hex.Leads]
    simp

/-- Every `%` of the text begins an escape. -/
def Unbroken (t : Text) : Prop :=
  ∀ before after, t = before ++ '%' :: after → Hex.Leads after

/-- Of the `%` signs of the text that begin no escape, the one between `before` and
`after` is the first. -/
structure BreaksAt (t before after : Text) : Prop where
  text : t = before ++ '%' :: after
  broken : ¬ Hex.Leads after
  first : ∀ earlier between, before = earlier ++ '%' :: between →
    Hex.Leads (between ++ '%' :: after)

theorem unbroken_nil : Unbroken [] := by
  intro before after h
  simp at h

theorem unbroken_cons {c : Char} {t : Text} :
    Unbroken (c :: t) ↔ (c = '%' → Hex.Leads t) ∧ Unbroken t := by
  constructor
  · intro h
    refine ⟨?_, fun before after ht => h (c :: before) after (by rw [ht]; rfl)⟩
    rintro rfl
    exact h [] t rfl
  · rintro ⟨hc, ht⟩ before after heq
    cases before with
    | nil =>
      obtain ⟨rfl, rfl⟩ := List.cons.inj heq
      exact hc rfl
    | cons d before => exact ht before after (List.cons.inj heq).2

theorem BreaksAt.cons {c : Char} {t before after : Text}
    (h : BreaksAt t before after) (hc : c = '%' → Hex.Leads t) :
    BreaksAt (c :: t) (c :: before) after where
  text := by rw [h.text]; rfl
  broken := h.broken
  first := by
    intro earlier between heq
    cases earlier with
    | nil =>
      obtain ⟨rfl, rfl⟩ := List.cons.inj heq
      rw [← h.text]
      exact hc rfl
    | cons d earlier => exact h.first earlier between (List.cons.inj heq).2

/-- The search goes on from a character that begins no broken escape. -/
private theorem brokenEscape?_cons {c : Char} {t : Text}
    (h : c = '%' → Hex.Leads t) : brokenEscape? (c :: t) = brokenEscape? t := by
  rw [brokenEscape?, if_neg]
  rintro ⟨hc, hnone⟩
  exact escaped?_eq_none_iff_not_leads.mp (Option.isNone_iff_eq_none.mp hnone) (h hc)

/-- The search ends at a `%` that begins no escape. -/
private theorem brokenEscape?_stray {t : Text} (h : ¬ Hex.Leads t) :
    brokenEscape? ('%' :: t) = some ('%' :: t) := by
  rw [brokenEscape?, escaped?_eq_none_iff_not_leads.mpr h]
  rfl

/-- No broken escape is found exactly in an unbroken text. -/
theorem brokenEscape?_eq_none_iff {t : Text} :
    brokenEscape? t = none ↔ Unbroken t := by
  induction t with
  | nil => exact iff_of_true rfl unbroken_nil
  | cons c t ih =>
    rw [unbroken_cons]
    by_cases hc : c = '%' → Hex.Leads t
    · rw [brokenEscape?_cons hc, ih, and_iff_right hc]
    · obtain ⟨rfl, hstray⟩ := Classical.not_imp.mp hc
      rw [brokenEscape?_stray hstray]
      exact iff_of_false (by simp) fun h => hstray (h.1 rfl)

/-- What is found is where the text breaks. -/
theorem breaksAt_of_brokenEscape? {t found : Text}
    (h : brokenEscape? t = some found) :
    ∃ before after, found = '%' :: after ∧ BreaksAt t before after := by
  induction t with
  | nil => cases h
  | cons c t ih =>
    by_cases hc : c = '%' → Hex.Leads t
    · rw [brokenEscape?_cons hc] at h
      obtain ⟨before, after, hfound, hbreaks⟩ := ih h
      exact ⟨c :: before, after, hfound, hbreaks.cons hc⟩
    · obtain ⟨rfl, hstray⟩ := Classical.not_imp.mp hc
      rw [brokenEscape?_stray hstray] at h
      exact ⟨[], t, (Option.some.inj h).symm, rfl, hstray, by simp⟩

end Percent

end HttpExchange
