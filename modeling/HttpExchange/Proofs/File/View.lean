import HttpExchange.File.Memory
import HttpExchange.Proofs.File.Path

/-! What can be seen of a file store. A `FileView` tells which file a path names,
what a file holds, and what is found when a path is followed, and its laws say
what the operations change of that: only the files that they are about, a
renaming all at once, and nothing if it fails. Several paths may name one file,
as long as different names in one directory do not; and a path may fail to reach
the file that it names, as when it goes through a directory that is not there. -/

namespace HttpExchange

variable {σ κ : Type} [FileStore σ]

/-- The files `κ` of a store, and the laws of its operations. -/
structure FileView (σ κ : Type) [FileStore σ] where
  /-- The file that a path names, whether or not it exists. -/
  file : Path → κ
  /-- The content of a file, if it exists. -/
  read? : σ → κ → Option Bytes
  /-- The content of the file that is found at a path, if there is one. -/
  find? : σ → Path → Option Bytes
  read?_of_find? {s : σ} {p : Path} {data : Bytes} :
    find? s p = some data → read? s (file p) = some data
  file_ne_of_beside {p q : Path} : p.Beside q → file p ≠ file q
  create_ok {s s' : σ} {p : Path} {sink : Sink} :
    FileStore.create s p = (.ok sink, s') →
      find? s' p = some [] ∧ ∀ k, k ≠ file p → read? s' k = read? s k
  create_error {s s' : σ} {p : Path} {e : IoError} :
    FileStore.create s p = (.error e, s') →
      ∀ k, k ≠ file p → read? s' k = read? s k
  append {s : σ} {p : Path} {data : Bytes} (bytes : Bytes) :
    find? s p = some data →
      find? (FileStore.append s p bytes) p = some (data ++ bytes) ∧
        ∀ k, k ≠ file p → read? (FileStore.append s p bytes) k = read? s k
  rename_ok {s s' : σ} {p q : Path} {data : Bytes} :
    FileStore.rename s p q true = (.ok (), s') → file p ≠ file q →
      find? s p = some data →
        find? s' q = some data ∧ read? s' (file p) = none ∧
          ∀ k, k ≠ file p → k ≠ file q → read? s' k = read? s k
  rename_error {s s' : σ} {p q : Path} {e : IoError} :
    FileStore.rename s p q true = (.error e, s') →
      (∀ k, read? s' k = read? s k) ∧ find? s' p = find? s p
  remove_ok {s s' : σ} {p : Path} :
    FileStore.remove s p = (.ok (), s') →
      find? s' p = none ∧ ∀ k, k ≠ file p → read? s' k = read? s k
  remove_error {s s' : σ} {p : Path} {e : IoError} :
    FileStore.remove s p = (.error e, s') →
      ∀ k, k ≠ file p → read? s' k = read? s k

/-! ## Files that stay the same -/

namespace FileView

/-- All files but the one at a path are in `t` what they are in `s`. -/
def SameBut (view : FileView σ κ) (p : Path) (s t : σ) : Prop :=
  ∀ k, k ≠ view.file p → view.read? t k = view.read? s k

namespace SameBut

variable {view : FileView σ κ} {p : Path} {s t u : σ}

theorem refl : view.SameBut p s s :=
  fun _ _ => rfl

theorem trans (h : view.SameBut p s t) (h' : view.SameBut p t u) :
    view.SameBut p s u :=
  fun k hk => (h' k hk).trans (h k hk)

end SameBut

variable {view : FileView σ κ} {p : Path} {s t : σ}

theorem sameBut_create {answer : Except IoError Sink}
    (h : FileStore.create s p = (answer, t)) : view.SameBut p s t := by
  cases answer with
  | ok sink => exact (view.create_ok h).2
  | error e => exact view.create_error h

theorem sameBut_remove {answer : Except IoError Unit}
    (h : FileStore.remove s p = (answer, t)) : view.SameBut p s t := by
  cases answer with
  | ok => exact (view.remove_ok h).2
  | error e => exact view.remove_error h

end FileView

/-! ## Files in memory -/

namespace Memory

@[simp] theorem read?_put (m : Memory) (p q : Path) (data : Bytes) :
    (m.put p data).read? q = if q = p then some data else m.read? q :=
  Sorted.get?_insert p q data m.files

@[simp] theorem read?_erase (m : Memory) (p q : Path) :
    (m.erase p).read? q = if q = p then none else m.read? q :=
  Sorted.get?_erase p q m.files

theorem read?_move {m : Memory} {p q : Path} {data : Bytes}
    (h : m.read? p = some data) (k : Path) :
    (m.move p q).read? k =
      if k = q then some data else if k = p then none else m.read? k := by
  simp [move, h]

theorem eq_of_answer_ok {α : Type} {error : Option IoError} {value x : α}
    {before after m : Memory}
    (h : answer error value before after = (.ok x, m)) : m = after := by
  cases error with
  | none =>
    cases h
    rfl
  | some e => cases h

theorem eq_of_answer_error {α : Type} {error : Option IoError} {value : α}
    {e : IoError} {before after m : Memory}
    (h : answer error value before after = (.error e, m)) : m = before := by
  cases error with
  | none => cases h
  | some e =>
    cases h
    rfl

/-- Every path names a file of its own, and reaches it. -/
def view : FileView Memory Path where
  file p := p
  read? := read?
  find? := read?
  read?_of_find? h := h
  file_ne_of_beside h := h.ne
  create_ok h := by
    obtain rfl := eq_of_answer_ok h
    exact ⟨by simp, fun k hk => by simp [hk]⟩
  create_error h := by
    obtain rfl := eq_of_answer_error h
    exact fun _ _ => rfl
  append {s p data} bytes h := by
    change (s.put p _).read? p = _ ∧ ∀ k, k ≠ p → (s.put p _).read? k = _
    rw [h]
    exact ⟨by simp, fun k hk => by simp [hk]⟩
  rename_ok {s s' p q data} h hne hdata := by
    obtain rfl := eq_of_answer_ok h
    refine ⟨?_, ?_, fun k hp hq => ?_⟩
    · rw [read?_move hdata, if_pos rfl]
    · rw [read?_move hdata, if_neg hne, if_pos rfl]
    · rw [read?_move hdata, if_neg hq, if_neg hp]
  rename_error h := by
    obtain rfl := eq_of_answer_error h
    exact ⟨fun _ => rfl, rfl⟩
  remove_ok h := by
    obtain rfl := eq_of_answer_ok h
    exact ⟨by simp, fun k hk => by simp [hk]⟩
  remove_error h := by
    obtain rfl := eq_of_answer_error h
    exact fun _ _ => rfl

end Memory

end HttpExchange
