import HttpExchange.Proofs.Query.Canonical
import HttpExchange.Proofs.Query.Parameters
import HttpExchange.Query.Url

/-! Parameters added to a url. Two queries that are put together have the tokens
of the first and then those of the second, whichever way they are separated. So
a url to which parameters are added keeps what stands before its query, and
reads as it did, followed by the parameters. -/

namespace HttpExchange.Url

open Query (CanonicalToken pairsOf)
open QueryReader (tokenTexts)

/-! ## The parts of a url -/

/-- What stands before the query of a url; the whole url if it has none. -/
def base (url : Text) : Text :=
  ((Text.cut? '?' url).map Prod.fst).getD url

/-- The query of a url. -/
def query? (url : Text) : Option Text :=
  (Text.cut? '?' url).map Prod.snd

theorem question_not_mem_base (url : Text) : '?' ∉ base url := by
  unfold base
  cases hcut : Text.cut? '?' url with
  | none => exact Text.cut?_eq_none_iff.mp hcut
  | some parts => exact (Text.cut?_eq_some hcut).2

theorem cut?_of_query? {url query : Text} (h : query? url = some query) :
    Text.cut? '?' url = some (base url, query) := by
  obtain ⟨⟨before, after⟩, hcut, rfl⟩ := Option.map_eq_some_iff.mp h
  rw [base, hcut]
  rfl

theorem query?_eq_none_iff {url : Text} : query? url = none ↔ '?' ∉ url := by
  rw [query?, Option.map_eq_none_iff, Text.cut?_eq_none_iff]

section

variable (cs : Charset) {url : Text}

theorem normalizeQuery_of_query? {query : Text} (h : query? url = some query) :
    normalizeQuery cs url =
      if Text.allBlank query then base url
      else if Text.allBlank (base url) then Query.normalize cs query
      else base url ++ '?' :: Query.normalize cs query := by
  rw [normalizeQuery, cut?_of_query? h]

theorem normalizeQuery_of_no_query (h : query? url = none) :
    normalizeQuery cs url =
      if '=' ∈ url then Query.normalize cs url else url := by
  rw [normalizeQuery, Option.map_eq_none_iff.mp h]
  simp only [List.contains_iff_mem]

end

/-- The query of a url as it goes into a longer one. -/
def existing (cs : Charset) (normalized : Bool) (url : Text) : Text :=
  let query := (query? url).getD []
  if normalized then Query.normalize cs query else query

/-! ## Two queries in one -/

/-- The tokens of two queries put together. -/
theorem tokenTexts_concat (first second : Text) :
    tokenTexts (concat first second) = tokenTexts first ++ tokenTexts second := by
  unfold concat
  by_cases hempty : first = []
  · subst hempty
    rfl
  · rw [if_neg (by simpa using hempty)]
    split
    · next hlast =>
      obtain ⟨init, rfl⟩ := List.getLast?_eq_some_iff.mp hlast
      rw [List.append_assoc, List.singleton_append, Query.tokenTexts_append_amp,
        Query.tokenTexts_append_amp init []]
      show _ = tokenTexts init ++ [] ++ tokenTexts second
      rw [List.append_nil]
    · exact Query.tokenTexts_append_amp first second

/-- A query that is not blank is put behind the query of the url. -/
theorem extend_eq (cs : Charset) (normalized : Bool) (url : Text) {query : Text}
    (hquery : Text.allBlank query = false) :
    extend cs normalized url query =
      base url ++ '?' :: concat (existing cs normalized url) query := by
  unfold extend
  rw [if_neg (by simp [hquery])]
  cases hcut : Text.cut? '?' url with
  | none =>
    have hnone : existing cs normalized url = [] := by
      unfold existing query?
      rw [hcut]
      cases normalized <;> rfl
    have hbase : base url = url := by
      unfold base
      rw [hcut]
      rfl
    rw [hnone, hbase]
    rfl
  | some parts =>
    unfold base existing query?
    rw [hcut]
    rfl

theorem cut?_extend (cs : Charset) (normalized : Bool) (url : Text)
    {query : Text} (hquery : Text.allBlank query = false) :
    Text.cut? '?' (extend cs normalized url query) =
      some (base url, concat (existing cs normalized url) query) := by
  rw [extend_eq cs normalized url hquery]
  exact Text.cut?_append (question_not_mem_base url)

/-! ## Parameters -/

/-- The query of parameters is not blank if one of them has a name. -/
theorem allBlank_ofParameters (cs : Charset) {params : List Parameter}
    (h : ∃ p ∈ params, p.name ≠ []) :
    Text.allBlank (Query.ofParameters cs params) = false := by
  obtain ⟨p, hp, hname⟩ := h
  have hnamed : p ∈ params.filter fun p => !p.name.isEmpty :=
    List.mem_filter.mpr ⟨hp, by simpa using hname⟩
  have htoken : p.write cs ∈ tokenTexts (Query.ofParameters cs params) := by
    rw [Query.tokenTexts_ofParameters]
    exact List.mem_map_of_mem hnamed
  refine (Query.canonical_ofParameters cs params).allBlank_eq_false ?_
  intro hnil
  rw [hnil] at htoken
  cases htoken

/-- What a lenient reader finds in the query of a url. -/
theorem pairs_query? {r : QueryReader} (hskip : r.skipPath = false)
    (hlenient : r.lenient = true) (url : Text) :
    (query? url).elim (.ok []) r.pairs =
      .ok ((tokenTexts ((query? url).getD [])).map r.pairOf) := by
  cases query? url with
  | none => rfl
  | some query =>
    rw [Option.elim_some, Option.getD_some, QueryReader.pairs_lenient hlenient,
      QueryReader.queryOf, hskip, if_neg (by simp)]

section Utf8

variable {r : QueryReader} (hcs : r.charset = .utf8) (hskip : r.skipPath = false)

include hcs

/-- Normalized or not, the query of the url holds the same pairs. -/
theorem map_pairOf_existing (normalized : Bool) (url : Text) :
    (tokenTexts (existing .utf8 normalized url)).map r.pairOf =
      (tokenTexts ((query? url).getD [])).map r.pairOf := by
  unfold existing
  cases normalized with
  | false => rfl
  | true =>
    rw [if_pos rfl, Query.tokenTexts_normalize, List.map_map]
    exact List.map_congr_left fun token _ => Query.pairOf_writeToken hcs token

/-- The pairs of the tokens after parameters have been added. -/
theorem map_pairOf_concat (normalized : Bool) (url : Text)
    (params : List Parameter) :
    (tokenTexts (concat (existing .utf8 normalized url)
        (Query.ofParameters .utf8 params))).map r.pairOf =
      (tokenTexts ((query? url).getD [])).map r.pairOf ++ pairsOf params := by
  have hnew := @Query.map_pairOf_ofParameters r params
    fun p _ => hcs ▸ p.restoredBy_utf8
  rw [hcs] at hnew
  rw [tokenTexts_concat, List.map_append, map_pairOf_existing hcs, hnew]

include hskip

/-- A lenient reader finds the pairs of the url, and then the parameters. -/
theorem pairs_concat_lenient (hlenient : r.lenient = true) (normalized : Bool)
    (url : Text) (params : List Parameter) :
    r.pairs (concat (existing .utf8 normalized url)
        (Query.ofParameters .utf8 params)) =
      .ok ((tokenTexts ((query? url).getD [])).map r.pairOf ++ pairsOf params) := by
  rw [QueryReader.pairs_lenient hlenient, QueryReader.queryOf, hskip,
    if_neg (by simp), map_pairOf_concat hcs]

/-- Every reader finds them if the query of the url is normalized. -/
theorem pairs_concat_normalized (url : Text) (params : List Parameter) :
    r.pairs (concat (existing .utf8 true url)
        (Query.ofParameters .utf8 params)) =
      .ok ((tokenTexts ((query? url).getD [])).map r.pairOf ++ pairsOf params) := by
  have hcanonical : ∀ token ∈ tokenTexts (concat (existing .utf8 true url)
      (Query.ofParameters .utf8 params)), CanonicalToken token := by
    intro token hmem
    rw [tokenTexts_concat] at hmem
    rcases List.mem_append.mp hmem with hmem | hmem
    · exact (Query.canonical_normalize .utf8 _).canonicalToken_of_mem token hmem
    · exact (Query.canonical_ofParameters .utf8 params).canonicalToken_of_mem token
        hmem
  rw [Query.pairs_of_canonical_tokens hskip hcanonical, map_pairOf_concat hcs]

end Utf8

/-- Adding parameters loses and invents nothing. What stands before the query is
kept, and the query reads as it did, followed by the parameters that have a
name: to a lenient reader in any case, and to a strict one if the query of the
url is normalized. -/
theorem pairs_addParameters (url : Text) (params : List Parameter)
    (normalizeExisting plusIsSpace : Bool) (h : ∃ p ∈ params, p.name ≠ []) :
    let lenient : QueryReader :=
      { charset := .utf8, lenient := true, plusIsSpace }
    let strict : QueryReader := { charset := .utf8, plusIsSpace }
    ∃ query old,
      Text.cut? '?' (addParameters .utf8 normalizeExisting url params) =
        some (base url, query) ∧
      (query? url).elim (.ok []) lenient.pairs = .ok old ∧
      lenient.pairs query = .ok (old ++ pairsOf params) ∧
      (normalizeExisting = true →
        strict.pairs query = .ok (old ++ pairsOf params)) := by
  intro lenient strict
  refine ⟨_, _, cut?_extend .utf8 normalizeExisting url
    (allBlank_ofParameters .utf8 h), pairs_query? rfl rfl url,
    pairs_concat_lenient rfl rfl rfl normalizeExisting url params, ?_⟩
  rintro rfl
  exact pairs_concat_normalized rfl rfl url params

/-- A broken escape and an empty token in the url, a separator, an escape and a
plus sign in what is added. -/
theorem pairs_addParameters_broken_escape :
    (∃ p ∈ [Parameter.mk "k&".toList (some "%41+".toList), .bare []],
      p.name ≠ []) ∧
    addParameters .utf8 true "x?q=%4&&b?".toList
        [⟨"k&".toList, some "%41+".toList⟩, .bare []] =
      "x?q=%254&b?=&k%26=%2541%2B".toList ∧
    ({ charset := .utf8, plusIsSpace := true } : QueryReader).pairs
        "q=%254&b?=&k%26=%2541%2B".toList =
      .ok [("q".toList, "%4".toList), ("b?".toList, []),
        ("k&".toList, "%41+".toList)] := by
  have h : ∃ p ∈ [Parameter.mk "k&".toList (some "%41+".toList), .bare []],
      p.name ≠ [] := ⟨_, List.mem_cons_self, by decide⟩
  have hmerged : addParameters .utf8 true "x?q=%4&&b?".toList
      [⟨"k&".toList, some "%41+".toList⟩, .bare []] =
      "x?q=%254&b?=&k%26=%2541%2B".toList := by decide +kernel
  refine ⟨h, hmerged, ?_⟩
  obtain ⟨query, old, hcut, hold, -, hstrict⟩ :=
    pairs_addParameters "x?q=%4&&b?".toList _ true true h
  have hold' : (query? "x?q=%4&&b?".toList).elim (.ok [])
      ({ charset := .utf8, lenient := true, plusIsSpace := true } :
        QueryReader).pairs =
      .ok [("q".toList, "%4".toList), ("b?".toList, [])] := by decide +kernel
  rw [hmerged] at hcut
  rw [hold'] at hold
  cases hcut
  cases hold
  exact hstrict rfl

end HttpExchange.Url
