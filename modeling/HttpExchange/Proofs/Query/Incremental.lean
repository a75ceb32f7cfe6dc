import HttpExchange.Proofs.Query.Canonical
import HttpExchange.Proofs.Query.Merging

/-! Parameters added one list after the other. Queries can be put together in any
grouping, and the query of a list of parameters is put together from those of its
two parts. What has been added is canonical, so that a later addition, also one
that normalizes the query of the url, leaves it as it is. Two lists added in turn
therefore give the same url, character for character, as both added at once. -/

namespace HttpExchange.Url

/-! ## Putting queries together -/

/-- A query as it stands before another one: with a `&` at its end, unless it is
empty. -/
def ended (query : Text) : Text :=
  if query.isEmpty then []
  else if query.getLast? = some '&' then query
  else query ++ ['&']

theorem concat_eq (first second : Text) :
    concat first second = ended first ++ second := by
  unfold concat ended
  split
  · rfl
  · split
    · rfl
    · simp

theorem ended_of_getLast? {query : Text} (h : query.getLast? = some '&') :
    ended query = query := by
  have hne : query ≠ [] := by
    rintro rfl
    cases h
  rw [ended, if_neg (by simpa using hne), if_pos h]

theorem ended_ended (query : Text) : ended (ended query) = ended query := by
  by_cases hempty : query = []
  · subst hempty
    rfl
  · refine ended_of_getLast? ?_
    rw [ended, if_neg (by simpa using hempty)]
    split
    · next hlast => exact hlast
    · exact List.getLast?_concat

/-- How a query ends is decided by its last part that is not empty. -/
theorem ended_append (before : Text) {query : Text} (h : query ≠ []) :
    ended (before ++ query) = before ++ ended query := by
  have hlast : (before ++ query).getLast? = query.getLast? :=
    List.getLast?_append_of_ne_nil before h
  have hsome : query.isEmpty = false := by simpa using h
  have hsome' : (before ++ query).isEmpty = false := by simp [h]
  simp only [ended, hsome, hsome', hlast, Bool.false_eq_true, if_false]
  split
  · rfl
  · exact List.append_assoc before query ['&']

theorem concat_assoc (first second third : Text) :
    concat (concat first second) third = concat first (concat second third) := by
  simp only [concat_eq]
  by_cases hempty : second = []
  · subst hempty
    rw [List.append_nil, ended_ended]
    rfl
  · rw [ended_append _ hempty, List.append_assoc]

/-- Queries of tokens that are put together are the query of all the tokens. -/
theorem concat_join {tokens others : List Text}
    (h : ∀ token ∈ tokens, '&' ∉ token ∧ token ≠ []) (hothers : others ≠ []) :
    concat (Text.join '&' tokens) (Text.join '&' others) =
      Text.join '&' (tokens ++ others) := by
  by_cases hne : tokens = []
  · subst hne
    rfl
  · obtain ⟨last, hlast⟩ := Option.ne_none_iff_exists'.mp
      (mt List.getLast?_eq_none_iff.mp hne)
    obtain ⟨hamp, hsome⟩ := h last (List.mem_of_getLast? hlast)
    have hend := @Text.getLast?_join '&' tokens last hlast hsome
    have hfull : Text.join '&' tokens ≠ [] := by
      intro hempty
      rw [hempty] at hend
      exact hsome (List.getLast?_eq_none_iff.mp hend.symm)
    have hopen : (Text.join '&' tokens).getLast? ≠ some '&' := by
      rw [hend]
      exact fun hmem => hamp (List.mem_of_getLast? hmem)
    rw [concat, if_neg (by simpa using hfull), if_neg hopen,
      Text.join_append hne hothers]

end HttpExchange.Url

namespace HttpExchange.Query

/-- Canonical queries that are put together are canonical, if the second holds
anything. -/
theorem Canonical.concat {first second : Text} (hfirst : Canonical first)
    (hsecond : Canonical second) (hne : second ≠ []) :
    Canonical (Url.concat first second) := by
  obtain ⟨tokens, htokens, rfl⟩ := hfirst
  obtain ⟨others, hothers, rfl⟩ := hsecond
  have hsome : others ≠ [] := by
    rintro rfl
    exact hne rfl
  refine ⟨tokens ++ others, ?_, ?_⟩
  · intro token hmem
    rcases List.mem_append.mp hmem with hmem | hmem
    · exact htokens token hmem
    · exact hothers token hmem
  · exact Url.concat_join (joinable_of_canonical htokens) hsome

/-- The query of two lists of parameters is put together from the query of
each. -/
theorem ofParameters_append (cs : Charset) (params : List Parameter)
    {others : List Parameter} (h : ∃ p ∈ others, p.name ≠ []) :
    ofParameters cs (params ++ others) =
      Url.concat (ofParameters cs params) (ofParameters cs others) := by
  obtain ⟨p, hp, hname⟩ := h
  have hnamed : p ∈ others.filter fun p => !p.name.isEmpty :=
    List.mem_filter.mpr ⟨hp, by simpa using hname⟩
  have hothers : (others.filter fun p => !p.name.isEmpty).map
      (Parameter.write cs) ≠ [] := by
    rw [Ne, List.map_eq_nil_iff]
    exact List.ne_nil_of_mem hnamed
  rw [ofParameters, List.filter_append, List.map_append]
  exact (Url.concat_join (joinable_of_canonical (canonicalToken_of_mem_map
    (Parameter.canonicalToken_write cs) _)) hothers).symm

end HttpExchange.Query

namespace HttpExchange.Url

/-! ## Parameters added twice -/

section

variable (cs : Charset) (normalized : Bool) (url : Text)

theorem base_extend {query : Text} (hquery : Text.allBlank query = false) :
    base (extend cs normalized url query) = base url := by
  rw [base, cut?_extend cs normalized url hquery]
  rfl

theorem query?_extend {query : Text} (hquery : Text.allBlank query = false) :
    query? (extend cs normalized url query) =
      some (concat (existing cs normalized url) query) := by
  rw [query?, cut?_extend cs normalized url hquery]
  rfl

end

/-- What has been added is not written a second time. -/
theorem existing_addParameters {cs : Charset} (hcs : cs.KeepsAscii)
    (normalized : Bool) (url : Text) {params : List Parameter}
    (h : ∃ p ∈ params, p.name ≠ []) :
    existing cs normalized (addParameters cs normalized url params) =
      concat (existing cs normalized url) (Query.ofParameters cs params) := by
  have hblank := allBlank_ofParameters cs h
  rw [existing, addParameters, query?_extend cs normalized url hblank,
    Option.getD_some]
  cases normalized with
  | false => rfl
  | true =>
    have hne : Query.ofParameters cs params ≠ [] := by
      intro hnil
      rw [hnil] at hblank
      cases hblank
    have hcanonical : Query.Canonical (concat (existing cs true url)
        (Query.ofParameters cs params)) :=
      (Query.canonical_normalize cs _).concat
        (Query.canonical_ofParameters cs params) hne
    exact hcanonical.normalize_eq_self hcs

/-- Parameters may be added in one go or in two: the url is the same, character
for character. -/
theorem addParameters_addParameters {cs : Charset} (hcs : cs.KeepsAscii)
    (normalizeExisting : Bool) (url : Text) {first second : List Parameter}
    (hfirst : ∃ p ∈ first, p.name ≠ []) (hsecond : ∃ p ∈ second, p.name ≠ []) :
    addParameters cs normalizeExisting
        (addParameters cs normalizeExisting url first) second =
      addParameters cs normalizeExisting url (first ++ second) := by
  have hboth : ∃ p ∈ first ++ second, p.name ≠ [] := by
    obtain ⟨p, hp, hname⟩ := hfirst
    exact ⟨p, List.mem_append_left second hp, hname⟩
  have hbase : base (addParameters cs normalizeExisting url first) = base url :=
    base_extend cs normalizeExisting url (allBlank_ofParameters cs hfirst)
  calc addParameters cs normalizeExisting
          (addParameters cs normalizeExisting url first) second
      = base (addParameters cs normalizeExisting url first) ++ '?' ::
          concat (existing cs normalizeExisting
              (addParameters cs normalizeExisting url first))
            (Query.ofParameters cs second) :=
        extend_eq cs normalizeExisting _ (allBlank_ofParameters cs hsecond)
    _ = base url ++ '?' ::
          concat (concat (existing cs normalizeExisting url)
              (Query.ofParameters cs first)) (Query.ofParameters cs second) := by
        rw [hbase, existing_addParameters hcs normalizeExisting url hfirst]
    _ = base url ++ '?' ::
          concat (existing cs normalizeExisting url)
            (Query.ofParameters cs (first ++ second)) := by
        rw [concat_assoc, Query.ofParameters_append cs first hsecond]
    _ = addParameters cs normalizeExisting url (first ++ second) :=
        (extend_eq cs normalizeExisting url
          (allBlank_ofParameters cs hboth)).symm

/-- A `?` among the bytes of what is added first, a broken escape, an empty name,
and a query that ends in a separator. -/
theorem addParameters_addParameters_iso2022jp :
    Charset.iso2022jp.KeepsAscii ∧
    (∃ p ∈ [Parameter.mk "人".toList (some "%4".toList)], p.name ≠ []) ∧
    (∃ p ∈ [Parameter.bare [], Parameter.mk "b".toList (some "=&".toList)],
      p.name ≠ []) ∧
    addParameters .iso2022jp true
        (addParameters .iso2022jp true "x?a&".toList
          [⟨"人".toList, some "%4".toList⟩])
        [.bare [], ⟨"b".toList, some "=&".toList⟩] =
      addParameters .iso2022jp true "x?a&".toList
        [⟨"人".toList, some "%4".toList⟩, .bare [], ⟨"b".toList, some "=&".toList⟩] ∧
    addParameters .iso2022jp true "x?a&".toList
        [⟨"人".toList, some "%4".toList⟩, .bare [], ⟨"b".toList, some "=&".toList⟩] =
      "x?a=&%1B$B?M%1B(B=%254&b==%26".toList := by
  have hfirst : ∃ p ∈ [Parameter.mk "人".toList (some "%4".toList)],
      p.name ≠ [] := ⟨_, List.mem_cons_self, by decide⟩
  have hsecond : ∃ p ∈ [Parameter.bare [], Parameter.mk "b".toList
      (some "=&".toList)], p.name ≠ [] :=
    ⟨_, List.mem_cons_of_mem _ List.mem_cons_self, by decide⟩
  refine ⟨Charset.keepsAscii_iso2022jp, hfirst, hsecond, ?_, by decide +kernel⟩
  exact addParameters_addParameters Charset.keepsAscii_iso2022jp true _ hfirst
    hsecond

end HttpExchange.Url
