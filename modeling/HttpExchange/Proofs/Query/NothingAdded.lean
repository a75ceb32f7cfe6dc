import HttpExchange.Proofs.Query.Canonical
import HttpExchange.Proofs.Query.Merging

/-! Urls to which nothing is added, since no parameter has a name. Where the query
is not to be normalized such a url stays as it is. Where it is, and something
stands before the query, the query is put into normal form in its place. But where
only blank text stands before it, that text and the `?` are dropped, and what is
left is no url with that query: a `?` in it could only begin the first name, and
the name would be read without it. -/

namespace HttpExchange

/-- A character that is neither a percent nor a plus sign reads as itself. -/
theorem QueryReader.readText_cons {r : QueryReader} (hcs : r.charset = .utf8)
    {c : Char} (hsign : c ≠ '%') (hplus : c ≠ '+') (t : Text) :
    r.readText (c :: t) = c :: r.readText t := by
  rw [readText_eq, readText_eq, List.map_cons, Percent.readPlus_of_ne hplus,
    Percent.decode_char hsign, hcs]
  exact Utf8.decodeFrom_encodeChar c _

namespace Query

open QueryReader (tokenTexts)

/-! ## Canonical queries that begin with a `?` -/

/-- What follows a `?` with only blank text before it does not read as the whole
canonical query does: its first name is shorter. -/
theorem pairs_ne_of_question {r : QueryReader} (hcs : r.charset = .utf8)
    (hskip : r.skipPath = false) {base rest : Text}
    (h : Canonical (base ++ '?' :: rest)) (hbase : Text.allBlank base = true) :
    r.pairs rest ≠ r.pairs (base ++ '?' :: rest) := by
  obtain rfl : base = [] := by
    refine Text.eq_nil_of_allBlank (fun c hc => ?_) hbase
    exact h.isBlank_of_mem c (List.mem_append_left _ hc)
  rw [List.nil_append] at h ⊢
  obtain ⟨name, value, others, hshort, hlong, hvalue, hothers, rfl⟩ :=
    h.exists_of_question
  have hread : ∀ name, Percent.Written .rawName name →
      r.pairs (Text.join '&' ((name ++ '=' :: value) :: others)) =
        .ok ((r.readText name, r.readText value) :: others.map r.pairOf) := by
    intro name hname
    have htokens : ∀ token ∈ (name ++ '=' :: value) :: others,
        CanonicalToken token :=
      List.forall_mem_cons.mpr ⟨⟨name, value, hname, hvalue, rfl⟩, hothers⟩
    rw [pairs_join_canonical hskip htokens, List.map_cons, QueryReader.pairOf,
      tokenParts_of_written hname]
  have hwhole : '?' :: Text.join '&' ((name ++ '=' :: value) :: others) =
      Text.join '&' (('?' :: name ++ '=' :: value) :: others) :=
    (Text.join_append_cons '&' ['?'] (name ++ '=' :: value) others).symm
  rw [hwhole, hread name hshort, hread ('?' :: name) hlong,
    QueryReader.readText_cons hcs (by decide) (by decide)]
  intro heq
  simp only [Except.ok.injEq, List.cons.injEq, Prod.mk.injEq] at heq
  exact List.cons_ne_self _ _ heq.1.1.symm

end Query

namespace Url

open QueryReader (tokenTexts)

theorem ofParameters_nameless (cs : Charset) {params : List Parameter}
    (h : ∀ p ∈ params, p.name = []) : Query.ofParameters cs params = [] := by
  have hnone : (params.filter fun p => !p.name.isEmpty) = [] :=
    List.filter_eq_nil_iff.mpr fun p hp => by simp [h p hp]
  rw [Query.ofParameters, hnone]
  rfl

section Nameless

variable {cs : Charset} {url query : Text} {params : List Parameter}
  (hparams : ∀ p ∈ params, p.name = [])

include hparams

/-- A url stays as it is if nothing is added and nothing is to be normalized. -/
theorem addParameters_nameless_false : addParameters cs false url params = url := by
  rw [addParameters, ofParameters_nameless cs hparams]
  rfl

theorem addParameters_nameless_true (hquery : query? url = some query)
    (hblank : Text.allBlank query = false) :
    addParameters cs true url params =
      if Text.allBlank (base url) then Query.normalize cs query
      else base url ++ '?' :: Query.normalize cs query := by
  have hmem : url.contains '?' = true := by
    rw [List.contains_iff_mem, (Text.cut?_eq_some (cut?_of_query? hquery)).1]
    simp
  rw [addParameters, ofParameters_nameless cs hparams, extend,
    if_pos (show Text.allBlank [] = true from rfl), hmem]
  show normalizeQuery cs url = _
  rw [normalizeQuery_of_query? cs hquery, hblank, if_neg (by simp)]

end Nameless

/-- Adding nothing changes nothing but how the query is written, if the query is
not to be normalized or something stands before it. Otherwise its `?` is lost,
and then it does not read the same. -/
theorem pairs_addParameters_nameless (normalizeExisting plusIsSpace : Bool)
    {url query : Text} {params : List Parameter} (hquery : query? url = some query)
    (hblank : Text.allBlank query = false) (hparams : ∀ p ∈ params, p.name = []) :
    let lenient : QueryReader :=
      { charset := .utf8, lenient := true, plusIsSpace }
    (∃ query' pairs,
      Text.cut? '?' (addParameters .utf8 normalizeExisting url params) =
        some (base url, query') ∧
      lenient.pairs query = .ok pairs ∧ lenient.pairs query' = .ok pairs) ↔
    (normalizeExisting = true → Text.allBlank (base url) = false) := by
  intro lenient
  have hread : lenient.pairs query = .ok ((tokenTexts query).map lenient.pairOf) :=
    QueryReader.pairs_lenient rfl query
  have hwritten : lenient.pairs (Query.normalize .utf8 query) =
      .ok ((tokenTexts query).map lenient.pairOf) :=
    Query.pairs_normalize_eq rfl rfl query
  cases normalizeExisting with
  | false =>
    rw [addParameters_nameless_false hparams]
    refine ⟨fun _ h => (by cases h), fun _ => ?_⟩
    exact ⟨query, _, cut?_of_query? hquery, hread, hread⟩
  | true =>
    rw [addParameters_nameless_true hparams hquery hblank]
    constructor
    · rintro ⟨query', pairs, hcut, hpairs, hpairs'⟩ -
      rw [← Bool.not_eq_true]
      intro hbase
      rw [if_pos hbase] at hcut
      have heq := (Text.cut?_eq_some hcut).1
      have hcanonical := Query.canonical_normalize .utf8 query
      rw [heq] at hcanonical
      refine Query.pairs_ne_of_question (r := lenient) rfl rfl hcanonical hbase ?_
      rw [hpairs', ← heq, hwritten, ← hread, hpairs]
    · intro hbase
      rw [hbase rfl, if_neg (by simp)]
      exact ⟨_, _, Text.cut?_append (question_not_mem_base url), hread, hwritten⟩

/-- A broken escape, a plus sign and an empty token in the query, and a parameter
without name. -/
theorem pairs_addParameters_nameless_broken_escape :
    let lenient : QueryReader :=
      { charset := .utf8, lenient := true, plusIsSpace := true }
    query? "x?q=%4+b&&".toList = some "q=%4+b&&".toList ∧
    Text.allBlank "q=%4+b&&".toList = false ∧
    (∀ p ∈ [Parameter.bare []], p.name = []) ∧
    addParameters .utf8 true "x?q=%4+b&&".toList [.bare []] =
      "x?q=%254+b".toList ∧
    ∃ query' pairs,
      Text.cut? '?' (addParameters .utf8 true "x?q=%4+b&&".toList [.bare []]) =
        some (base "x?q=%4+b&&".toList, query') ∧
      lenient.pairs "q=%4+b&&".toList = .ok pairs ∧
      lenient.pairs query' = .ok pairs := by
  intro lenient
  have hquery : query? "x?q=%4+b&&".toList = some "q=%4+b&&".toList := by decide
  have hblank : Text.allBlank "q=%4+b&&".toList = false := by decide
  have hparams : ∀ p ∈ [Parameter.bare []], p.name = [] := by
    simp [Parameter.bare]
  refine ⟨hquery, hblank, hparams, by decide +kernel, ?_⟩
  exact (pairs_addParameters_nameless true true hquery hblank hparams).mpr
    fun _ => by decide

/-- A reference that is only a query is no such url any more. -/
theorem addParameters_nameless_question_mark :
    query? "?a=b".toList = some "a=b".toList ∧
    Text.allBlank "a=b".toList = false ∧
    addParameters .utf8 true "?a=b".toList [] = "a=b".toList ∧
    Text.cut? '?' (addParameters .utf8 true "?a=b".toList []) = none := by
  decide +kernel

end Url

end HttpExchange
