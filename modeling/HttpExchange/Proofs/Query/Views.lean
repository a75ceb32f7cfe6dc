import HttpExchange.Query.Reader
import Mathlib.Data.List.Induction
import Mathlib.Data.List.Nodup

/-! The views of a query. Its pairs, the last value of each name and all values of
each name come of one reading: where that fails, all three fail alike. Otherwise
all values of each name are the pairs, grouped by name, which is kept by induction
on the pairs that have been added; and the last value of each name is the last of
all its values, since adding a value to a group and overwriting it come to the same
for the last value of the group. -/

namespace HttpExchange

/-- The names of pairs, each once, in the order in which they are first seen. -/
def firstSeen (pairs : List (Text × Text)) : List Text :=
  (pairs.map Prod.fst).eraseDups

/-- The values that pairs hold for a name, in order. -/
def valuesOf (name : Text) (pairs : List (Text × Text)) : List Text :=
  (pairs.filter fun pair => pair.1 = name).map Prod.snd

private theorem nodup_eraseDups {α : Type} [BEq α] [LawfulBEq α] (l : List α) :
    l.eraseDups.Nodup := by
  -- What `eraseDups` goes on with is no tail of the list, only shorter.
  induction hn : l.length using Nat.strongRecOn generalizing l with
  | _ n ih =>
    cases l with
    | nil => exact List.nodup_nil
    | cons x rest =>
      have hle := List.length_filter_le (fun y => !y == x) rest
      rw [List.eraseDups_cons, List.nodup_cons, List.mem_eraseDups]
      exact ⟨by simp, ih _ (by rw [← hn, List.length_cons]; omega) _ rfl⟩

section

variable (name value : Text) (pairs : List (Text × Text))

theorem nodup_firstSeen : (firstSeen pairs).Nodup :=
  nodup_eraseDups _

/-- A name that is new comes last. -/
theorem firstSeen_concat :
    firstSeen (pairs ++ [(name, value)]) =
      if name ∈ firstSeen pairs then firstSeen pairs
      else firstSeen pairs ++ [name] := by
  have hone : [name].eraseDups = [name] := List.eraseDups_cons
  simp only [firstSeen, List.map_append, List.map_cons, List.map_nil,
    List.eraseDups_append, List.mem_eraseDups, List.cons_removeAll,
    List.elem_eq_mem, List.nil_removeAll]
  by_cases hmem : name ∈ pairs.map Prod.fst
  · simp [hmem]
  · simp [hmem, hone]

theorem valuesOf_concat (other : Text) :
    valuesOf other (pairs ++ [(name, value)]) =
      if other = name then valuesOf other pairs ++ [value]
      else valuesOf other pairs := by
  rw [valuesOf, List.filter_append, List.map_append]
  by_cases h : other = name
  · simp [valuesOf, h]
  · simp [valuesOf, h, Ne.symm h]

theorem mem_firstSeen_iff : name ∈ firstSeen pairs ↔ valuesOf name pairs ≠ [] := by
  simp [firstSeen, valuesOf, List.mem_eraseDups]

end

namespace AllValues

/-! ## All values of each name -/

/-- The pairs grouped by name. -/
def ofPairs (pairs : List (Text × Text)) : AllValues :=
  (firstSeen pairs).map fun name => (name, valuesOf name pairs)

/-- One value more for a name, where the values are told by name. -/
theorem add_map {names : List Text} (hnodup : names.Nodup)
    {values : Text → List Text} {name : Text}
    (hnew : name ∉ names → values name = []) (value : Text) :
    add name value (names.map fun other => (other, values other)) =
      (if name ∈ names then names else names ++ [name]).map fun other =>
        (other, if other = name then values other ++ [value] else values other) := by
  induction names with
  | nil => simp [add, hnew]
  | cons first rest ih =>
    rw [List.nodup_cons] at hnodup
    rw [List.map_cons, add]
    by_cases hfirst : first = name
    · subst hfirst
      -- The name does not come again, so the groups after it stay as they are.
      have hrest : ∀ other ∈ rest, other ≠ first := by
        rintro other hmem rfl
        exact hnodup.1 hmem
      rw [if_pos rfl, if_pos List.mem_cons_self, List.map_cons, if_pos rfl]
      refine congrArg _ (List.map_congr_left fun other hmem => ?_)
      rw [if_neg (hrest other hmem)]
    · have hmem : name ∈ first :: rest ↔ name ∈ rest := by
        simp [Ne.symm hfirst]
      rw [if_neg hfirst, ih hnodup.2 fun h => hnew (mt hmem.mp h)]
      by_cases h : name ∈ rest
      · simp [h, hfirst]
      · simp [h, hfirst, Ne.symm hfirst]

/-- To add a pair to the groups is to group one pair more. -/
theorem add_ofPairs (name value : Text) (pairs : List (Text × Text)) :
    add name value (ofPairs pairs) = ofPairs (pairs ++ [(name, value)]) := by
  have hnew : name ∉ firstSeen pairs → valuesOf name pairs = [] := by
    intro h
    simpa using mt (mem_firstSeen_iff name pairs).mpr h
  rw [ofPairs, add_map (nodup_firstSeen pairs) hnew, ← firstSeen_concat, ofPairs]
  refine List.map_congr_left fun other _ => ?_
  rw [valuesOf_concat]

/-- Adding the pairs one after the other groups them. -/
theorem foldl_add_eq_ofPairs (pairs : List (Text × Text)) :
    pairs.foldl (fun m (name, value) => add name value m) [] = ofPairs pairs := by
  induction pairs using List.reverseRecOn with
  | nil => rfl
  | append_singleton rest pair ih =>
    rw [List.foldl_append, ih]
    exact add_ofPairs pair.1 pair.2 rest

/-- The pairs that the groups hold. -/
def toPairs (m : AllValues) : List (Text × Text) :=
  m.flatMap fun entry => entry.2.map fun value => (entry.1, value)

theorem toPairs_add_perm (name value : Text) (m : AllValues) :
    (toPairs (add name value m)).Perm (toPairs m ++ [(name, value)]) := by
  induction m with
  | nil => exact .refl _
  | cons entry rest ih =>
    obtain ⟨other, values⟩ := entry
    rw [add]
    split
    · next h =>
      subst h
      -- The value ends its group here, and the whole list there.
      simp only [toPairs, List.flatMap_cons, List.map_append, List.append_assoc]
      exact List.Perm.append_left _ List.perm_append_comm
    · simp only [toPairs, List.flatMap_cons, List.append_assoc]
      exact List.Perm.append_left _ ih

/-- Grouping loses no pair and repeats none. -/
theorem toPairs_ofPairs_perm (pairs : List (Text × Text)) :
    (toPairs (ofPairs pairs)).Perm pairs := by
  induction pairs using List.reverseRecOn with
  | nil => exact .refl _
  | append_singleton rest pair ih =>
    rw [← add_ofPairs]
    exact (toPairs_add_perm pair.1 pair.2 _).trans (ih.append_right [pair])

theorem mem_ofPairs_iff {name : Text} {values : List Text}
    {pairs : List (Text × Text)} :
    (name, values) ∈ ofPairs pairs ↔
      name ∈ firstSeen pairs ∧ values = valuesOf name pairs := by
  simp only [ofPairs, List.mem_map, Prod.mk.injEq]
  constructor
  · rintro ⟨other, hmem, rfl, rfl⟩
    exact ⟨hmem, rfl⟩
  · rintro ⟨hmem, rfl⟩
    exact ⟨name, hmem, rfl, rfl⟩

theorem names_ofPairs (pairs : List (Text × Text)) :
    (ofPairs pairs).map Prod.fst = firstSeen pairs := by
  rw [ofPairs, List.map_map]
  exact List.map_id _

/-! ## The last value of each name -/

/-- Only the last value of each name is kept. -/
def latest (m : AllValues) : LastValues :=
  m.map fun entry => (entry.1, entry.2.getLastD [])

theorem names_latest (m : AllValues) :
    (latest m).map Prod.fst = m.map Prod.fst := by
  rw [latest, List.map_map]
  rfl

/-- To overwrite a value is to add it, where only the last one is kept. -/
theorem insert_latest (name value : Text) (m : AllValues) :
    LastValues.insert name value (latest m) = latest (add name value m) := by
  induction m with
  | nil => rfl
  | cons entry rest ih =>
    obtain ⟨other, values⟩ := entry
    show LastValues.insert name value ((other, values.getLastD []) :: latest rest) = _
    rw [LastValues.insert, add, ih]
    split
    · simp [latest]
    · rfl

theorem foldl_insert_eq_latest (pairs : List (Text × Text)) :
    pairs.foldl (fun m (name, value) => LastValues.insert name value m) [] =
      latest (ofPairs pairs) := by
  rw [← foldl_add_eq_ofPairs]
  show pairs.foldl _ (latest []) = _
  refine List.foldl_hom latest ?_
  rintro m ⟨name, value⟩
  exact insert_latest name value m

theorem mem_latest_ofPairs_iff {name value : Text} {pairs : List (Text × Text)} :
    (name, value) ∈ latest (ofPairs pairs) ↔
      (valuesOf name pairs).getLast? = some value := by
  simp only [latest, List.mem_map, Prod.mk.injEq, List.getLastD_eq_getLast?]
  constructor
  · rintro ⟨⟨other, values⟩, hmem, rfl, rfl⟩
    obtain ⟨hseen, rfl⟩ := mem_ofPairs_iff.mp hmem
    have hne := mt List.getLast?_eq_none_iff.mp ((mem_firstSeen_iff _ _).mp hseen)
    obtain ⟨last, hlast⟩ := Option.ne_none_iff_exists'.mp hne
    rw [hlast]
    rfl
  · intro hlast
    have hne : valuesOf name pairs ≠ [] := by
      intro hnil
      rw [hnil] at hlast
      cases hlast
    refine ⟨(name, valuesOf name pairs), ?_, rfl, by rw [hlast]; rfl⟩
    exact mem_ofPairs_iff.mpr ⟨(mem_firstSeen_iff name pairs).mpr hne, rfl⟩

end AllValues

namespace QueryReader

/-! ## One reading, three views -/

theorem allValues_eq (r : QueryReader) (raw : Text) :
    r.allValues raw = (r.pairs raw).map AllValues.ofPairs := by
  have hfold : (fun pairs => pairs.foldl
      (fun m (name, value) => AllValues.add name value m) []) =
        AllValues.ofPairs := by
    funext pairs
    exact AllValues.foldl_add_eq_ofPairs pairs
  rw [allValues, hfold]

theorem lastValues_eq (r : QueryReader) (raw : Text) :
    r.lastValues raw =
      (r.pairs raw).map fun pairs => AllValues.latest (AllValues.ofPairs pairs) := by
  have hfold : (fun pairs => pairs.foldl
      (fun m (name, value) => LastValues.insert name value m) []) =
        fun pairs => AllValues.latest (AllValues.ofPairs pairs) := by
    funext pairs
    exact AllValues.foldl_insert_eq_latest pairs
  rw [lastValues, hfold]

/-- The views of a query agree. They fail together, for the same reason; or both
maps have the names of the pairs, each once and in the order in which they are first
seen, with all values of the name in order, or with the last of them. All values
together are the pairs, none lost and none repeated. -/
theorem views_agree (r : QueryReader) (raw : Text) :
    (∃ e, r.pairs raw = .error e ∧ r.lastValues raw = .error e ∧
      r.allValues raw = .error e) ∨
    ∃ pairs last all, r.pairs raw = .ok pairs ∧ r.lastValues raw = .ok last ∧
      r.allValues raw = .ok all ∧
      last.map Prod.fst = firstSeen pairs ∧ all.map Prod.fst = firstSeen pairs ∧
      (firstSeen pairs).Nodup ∧
      (∀ name values, (name, values) ∈ all ↔
        name ∈ firstSeen pairs ∧ values = valuesOf name pairs) ∧
      (∀ name value, (name, value) ∈ last ↔
        (valuesOf name pairs).getLast? = some value) ∧
      (all.flatMap fun entry => entry.2.map fun value => (entry.1, value)).Perm
        pairs := by
  rw [lastValues_eq, allValues_eq]
  cases r.pairs raw with
  | error e => exact .inl ⟨e, rfl, rfl, rfl⟩
  | ok pairs =>
    refine .inr ⟨pairs, _, _, rfl, rfl, rfl, ?_, ?_, ?_, ?_, ?_, ?_⟩
    · rw [AllValues.names_latest, AllValues.names_ofPairs]
    · exact AllValues.names_ofPairs pairs
    · exact nodup_firstSeen pairs
    · exact fun name values => AllValues.mem_ofPairs_iff
    · exact fun name value => AllValues.mem_latest_ofPairs_iff
    · exact AllValues.toPairs_ofPairs_perm pairs

/-- Two names that are equal once they are read, and another one between them. -/
example :
    let r : QueryReader := { charset := .utf8 }
    r.lastValues "a=1&b=2&%61=3".toList = .ok [(['a'], ['3']), (['b'], ['2'])] ∧
    r.allValues "a=1&b=2&%61=3".toList =
      .ok [(['a'], [['1'], ['3']]), (['b'], [['2']])] := by
  constructor <;> cbv

end QueryReader

end HttpExchange
