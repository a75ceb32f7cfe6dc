import HttpExchange.Download
import HttpExchange.Proofs.File.Path

/-! The destinations of downloads. A path with a name has one for every suffix,
and if there is no slash in the suffix, then the temporary file is beside the
final one: it has the same parent and a longer name. -/

namespace HttpExchange

namespace Destination

/-- The suffix that a temporary file gets when `suffix` is asked for. -/
def suffixFor (suffix : Text) : Text :=
  if suffix.isEmpty then defaultSuffix else suffix

variable {final : Path} {suffix : Text} {d : Destination}

theorem suffixFor_ne_nil : suffixFor suffix ≠ [] := by
  rw [suffixFor]
  split
  · exact List.cons_ne_nil _ _
  · next h => exact mt List.isEmpty_iff.mpr h

theorem slash_not_mem_suffixFor (h : '/' ∉ suffix) : '/' ∉ suffixFor suffix := by
  rw [suffixFor]
  split
  · decide
  · exact h

theorem ofPath_eq_ok (h : ofPath final suffix = .ok d) :
    ∃ name, Path.fileName? final = some name ∧
      d = ⟨final, Path.withFileName final (name ++ suffixFor suffix)⟩ := by
  rw [ofPath] at h
  split at h
  · cases h
  · next name hname =>
    cases h
    exact ⟨name, hname, rfl⟩

/-- The temporary file is beside the final one. -/
theorem beside_of_ofPath (h : ofPath final suffix = .ok d)
    (hsuffix : '/' ∉ suffix) : Path.Beside d.temporary d.final := by
  obtain ⟨name, hname, rfl⟩ := ofPath_eq_ok h
  have hlonger := (Path.isName_of_fileName? hname).append
    (slash_not_mem_suffixFor hsuffix)
  refine ⟨Path.parent?_withFileName hname hlonger, _, _,
    Path.fileName?_withFileName hname hlonger, hname, ?_⟩
  intro heq
  exact suffixFor_ne_nil (List.append_right_eq_self.mp heq)

end Destination

/-- A download that has a destination has one at its final path. -/
theorem Response.destination_eq_ok {r : Response} {target : Path}
    {suffix : Text} {isDirectory : Bool} {d : Destination}
    (h : r.destination target suffix isDirectory = .ok d) :
    ∃ final, r.finalPath none target isDirectory = .ok final ∧
      Destination.ofPath final suffix = .ok d := by
  rw [destination] at h
  cases hfinal : r.finalPath none target isDirectory with
  | error e =>
    rw [hfinal] at h
    cases h
  | ok final =>
    rw [hfinal] at h
    exact ⟨final, rfl, h⟩

/-- What keeps a download from having a destination. -/
theorem Response.destination_error {r : Response} {target : Path}
    {suffix : Text} {isDirectory : Bool} {error : BodyError}
    (h : r.destination target suffix isDirectory = .error error) :
    error = .noFileName target ∨ ∃ path, error = .notAFile path := by
  rw [destination] at h
  cases hfinal : r.finalPath none target isDirectory with
  | error e =>
    rw [hfinal] at h
    cases h
    rw [finalPath] at hfinal
    split at hfinal
    · split at hfinal
      · cases hfinal
      · cases hfinal
        exact .inl rfl
    · cases hfinal
  | ok path =>
    rw [hfinal] at h
    change Destination.ofPath path suffix = .error error at h
    rw [Destination.ofPath] at h
    split at h
    · cases h
      exact .inr ⟨path, rfl⟩
    · cases h

end HttpExchange
