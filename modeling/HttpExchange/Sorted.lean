/-! Values by key, in ascending order of the keys and each key once. Insertion
finds the place of a key from the left and overwrites the value that the key
has. What a look-up finds afterwards does not depend on the order. -/

namespace HttpExchange

/-- Keys with their values, in ascending order of the keys. -/
abbrev Sorted (κ α : Type) := List (κ × α)

namespace Sorted

variable {κ α : Type} [DecidableEq κ]

/-- The value of a key. -/
def get? (key : κ) (m : Sorted κ α) : Option α :=
  m.lookup key

/-- The pairs with a value for a key, in the place of the one that it had. -/
def insert [LT κ] [DecidableLT κ] (key : κ) (value : α) :
    Sorted κ α → Sorted κ α
  | [] => [(key, value)]
  | (other, old) :: rest =>
    if key = other then (key, value) :: rest
    else if key < other then (key, value) :: (other, old) :: rest
    else (other, old) :: insert key value rest

/-- The pairs without a key. -/
def erase (key : κ) (m : Sorted κ α) : Sorted κ α :=
  m.filter fun entry => entry.1 ≠ key

@[simp] theorem get?_nil (key : κ) : get? key ([] : Sorted κ α) = none := rfl

theorem get?_cons (key : κ) (entry : κ × α) (rest : Sorted κ α) :
    get? key (entry :: rest) =
      if key = entry.1 then some entry.2 else get? key rest := by
  by_cases h : key = entry.1
  · have hb : (key == entry.1) = true := by simpa using h
    rw [get?, List.lookup_cons, hb, if_pos h]
  · have hb : (key == entry.1) = false := by simpa using h
    rw [get?, List.lookup_cons, hb, if_neg h]
    rfl

/-- Insertion changes what is found for its own key and for no other. -/
theorem get?_insert [LT κ] [DecidableLT κ] (key other : κ) (value : α)
    (m : Sorted κ α) :
    get? other (insert key value m) =
      if other = key then some value else get? other m := by
  induction m with
  | nil => simp [insert, get?_cons]
  | cons entry rest ih =>
    obtain ⟨name, old⟩ := entry
    simp only [insert]
    split
    · next h =>
      subst h
      simp only [get?_cons]
      split <;> rfl
    · next h =>
      split
      · simp only [get?_cons]
      · simp only [get?_cons, ih]
        split
        · next hname => rw [if_neg (by rw [hname]; exact Ne.symm h)]
        · rfl

/-- Erasure leaves nothing for its own key and changes no other. -/
theorem get?_erase (key other : κ) (m : Sorted κ α) :
    get? other (erase key m) = if other = key then none else get? other m := by
  induction m with
  | nil => simp [erase]
  | cons entry rest ih =>
    simp only [erase] at ih ⊢
    by_cases h : entry.1 = key
    · rw [List.filter_cons_of_neg (by simp [h]), ih, get?_cons, h]
      split <;> rfl
    · rw [List.filter_cons_of_pos (by simp [h]), get?_cons, get?_cons, ih]
      split
      · next hother => rw [if_neg (by rw [hother]; exact h)]
      · rfl

end Sorted

end HttpExchange
