import HttpExchange.Proofs.Percent.Broken
import HttpExchange.Proofs.Query.Reading

/-! What strict readers refuse. A strict reader goes over the components of a query
in reading order and stops at the first that holds a broken escape; if there is
none, it reads what a lenient reader reads. So it fails exactly when some `%` of
the query has no two digits after it within its own component, and what it says
then is where that happens first. -/

namespace HttpExchange.QueryReader

/-- The names and values of a query in reading order: token by token, the name of
a token before its value. -/
def components (query : Text) : List Text :=
  (tokenTexts query).flatMap fun token =>
    [(tokenParts token).1, (tokenParts token).2]

/-- What a strict reader finds wrong with a component. -/
def fault? (component : Text) : Option QueryError :=
  (Percent.brokenEscape? component).map fun rest =>
    .brokenEscape (rest.take 3) component

theorem fault?_eq_none_iff {component : Text} :
    fault? component = none ↔ Percent.Unbroken component := by
  rw [fault?, Option.map_eq_none_iff, Percent.brokenEscape?_eq_none_iff]

/-- A fault tells the component and at most three characters from where it
breaks. -/
theorem breaksAt_of_fault? {component : Text} {fault : QueryError}
    (h : fault? component = some fault) :
    ∃ before after, Percent.BreaksAt component before after ∧
      fault = .brokenEscape (('%' :: after).take 3) component := by
  obtain ⟨found, hfound, rfl⟩ := Option.map_eq_some_iff.mp h
  obtain ⟨before, after, rfl, hbreaks⟩ := Percent.breaksAt_of_brokenEscape? hfound
  exact ⟨before, after, hbreaks, rfl⟩

/-! ## Reading up to the first fault -/

/-- A list is read up to the first fault, if each member is: the faults of a member
are looked for among its parts. -/
theorem mapM_eq_elim_findSome? {α β γ ε : Type} {f : α → Except ε β} {g : α → β}
    {parts : α → List γ} {fault? : γ → Option ε} {l : List α}
    (h : ∀ x ∈ l, f x = ((parts x).findSome? fault?).elim (.ok (g x)) .error) :
    l.mapM f = ((l.flatMap parts).findSome? fault?).elim (.ok (l.map g)) .error := by
  induction l with
  | nil => rfl
  | cons x rest ih =>
    rw [List.mapM_cons, h x (by simp), ih fun y hy => h y (by simp [hy]),
      List.flatMap_cons, List.findSome?_append]
    cases (parts x).findSome? fault? with
    | some e => rfl
    | none =>
      rw [Option.none_or]
      cases (rest.flatMap parts).findSome? fault? <;> rfl

section Strict

variable {r : QueryReader} (hstrict : r.lenient = false)

include hstrict

theorem readComponent_strict (component : Text) :
    r.readComponent component =
      (fault? component).elim (.ok (r.readText component)) .error := by
  rw [readComponent, fault?]
  cases Percent.brokenEscape? component with
  | none => rfl
  | some rest => simp [hstrict]

/-- The name is read before the value, and a fault in it is the one reported. -/
theorem readToken_strict (token : Text) :
    r.readToken token =
      ([(tokenParts token).1, (tokenParts token).2].findSome? fault?).elim
        (.ok (r.pairOf token)) .error := by
  simp only [readToken, readComponent_strict hstrict, List.findSome?_cons,
    List.findSome?_nil, pairOf]
  cases fault? (tokenParts token).1 with
  | some e => rfl
  | none => cases fault? (tokenParts token).2 <;> rfl

/-- A strict reader reports the first fault of the query, or reads its pairs. -/
theorem pairs_strict (raw : Text) :
    r.pairs raw = ((components (r.queryOf raw)).findSome? fault?).elim
      (.ok ((tokenTexts (r.queryOf raw)).map r.pairOf)) .error :=
  mapM_eq_elim_findSome? fun token _ => readToken_strict hstrict token

end Strict

/-- Strictness is exact. A lenient reader never fails. A strict one reads the same
pairs exactly if two digits follow every `%` of the query within its component.
Otherwise it fails with the first component in which they do not, and with what
stands there from the `%` on, cut after three characters. -/
theorem pairs_strict_exact (cs : Charset) (plusIsSpace skipPath : Bool)
    (raw : Text) :
    let lenient : QueryReader :=
      { charset := cs, lenient := true, plusIsSpace, skipPath }
    let strict : QueryReader := { charset := cs, plusIsSpace, skipPath }
    let all := components (strict.queryOf raw)
    ∃ pairs, lenient.pairs raw = .ok pairs ∧
      (strict.pairs raw = .ok pairs ↔
        ∀ component ∈ all, Percent.Unbroken component) ∧
      ((¬ ∀ component ∈ all, Percent.Unbroken component) →
        ∃ earlier component later before after,
          all = earlier ++ component :: later ∧
          (∀ c ∈ earlier, Percent.Unbroken c) ∧
          Percent.BreaksAt component before after ∧
          strict.pairs raw =
            .error (.brokenEscape (('%' :: after).take 3) component)) := by
  intro lenient strict all
  have hstrict : strict.pairs raw = (all.findSome? fault?).elim
      (.ok ((tokenTexts (strict.queryOf raw)).map strict.pairOf)) .error :=
    pairs_strict rfl raw
  have hnone : all.findSome? fault? = none ↔
      ∀ component ∈ all, Percent.Unbroken component := by
    simp only [List.findSome?_eq_none_iff, fault?_eq_none_iff]
  refine ⟨_, pairs_lenient rfl raw, ?_, fun hbroken => ?_⟩
  · rw [hstrict, ← hnone]
    cases all.findSome? fault? with
    | none => exact iff_of_true rfl rfl
    | some fault => exact iff_of_false (by simp) (by simp)
  · -- The first fault is found in some component, after sound ones only.
    obtain ⟨fault, hfault⟩ := Option.ne_none_iff_exists'.mp (mt hnone.mp hbroken)
    obtain ⟨earlier, component, later, hall, hcomponent, hearlier⟩ :=
      List.findSome?_eq_some_iff.mp hfault
    obtain ⟨before, after, hbreaks, rfl⟩ := breaksAt_of_fault? hcomponent
    refine ⟨earlier, component, later, before, after, hall, ?_, hbreaks, ?_⟩
    · exact fun c hc => fault?_eq_none_iff.mp (hearlier c hc)
    · rw [hstrict, hfault]
      rfl

/-- The second name breaks, and so does its value, whose escape a separator ends too
early. The name is read first. -/
example :
    ({ charset := .utf8 } : QueryReader).pairs "a=%41&b%é三x=%4&".toList =
      .error (.brokenEscape "%é三".toList "b%é三x".toList) := by cbv

end HttpExchange.QueryReader
