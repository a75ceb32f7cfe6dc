import HttpExchange.Proofs.Query.Canonical
import HttpExchange.Proofs.Query.Merging

/-! Urls normalized twice. A query that leaves something to normalize is found in
its place again, and is canonical by then. But a url is read anew each time, and
what the first normalization leaves need not read as the url did: where the query
is blank, the part before it is left alone, and counts as a query now if it holds a
`=`; and a text that counts as a query may be written with bytes that are a `?`, so
that it reads as a url with a query from there on. Apart from these, the second
normalization changes nothing. -/

namespace HttpExchange

/-! ## Characters that are written -/

namespace Percent

theorem not_mem_escape {c : Char} (hsign : c ≠ '%') (hdigit : Hex.isDigit c = false)
    (b : UInt8) : c ∉ escape b := by
  have hb := b.toNat_lt
  have hne : ∀ n < 16, c ≠ Hex.digit n := by
    rintro n hn rfl
    rw [Hex.isDigit_digit hn] at hdigit
    cases hdigit
  simp only [escape, Hex.ofByte, List.mem_cons, List.not_mem_nil, or_false, not_or]
  exact ⟨hsign, hne _ (by omega), hne _ (by omega)⟩

/-- In UTF-8 no mark is written that does not stand in the text: all else that is
written is escapes. -/
theorem mem_of_mem_writeRawChars {set : LiteralSet} {c : Char} (hsign : c ≠ '%')
    (hdigit : Hex.isDigit c = false) {t : Text} (h : c ∈ writeRawChars set t) :
    c ∈ t := by
  induction t using escape_induction with
  | nil => cases h
  | escape a b t ha hb ih =>
    rw [writeRawChars_escape ha hb] at h
    simp only [List.mem_cons] at h ⊢
    exact h.imp_right (Or.imp_right (Or.imp_right ih))
  | stray t he ih =>
    rw [writeRawChars_stray he] at h
    simp only [List.mem_cons] at h ⊢
    rcases h with h | rfl | rfl | h
    · exact .inl h
    · cases hdigit
    · cases hdigit
    · exact .inr (ih h)
  | char d t hd ih =>
    rw [writeRawChars_char hd, List.mem_append, writeChar] at h
    rcases h with h | h
    · split at h
      · rw [List.mem_singleton.mp h]
        exact List.mem_cons_self
      · obtain ⟨b, -, hb⟩ := List.mem_flatMap.mp h
        exact absurd hb (not_mem_escape hsign hdigit b)
    · exact List.mem_cons_of_mem d (ih h)

end Percent

namespace Query

open QueryReader (tokenTexts tokenParts)

theorem mem_of_mem_tokenTexts {query token : Text} (h : token ∈ tokenTexts query)
    {c : Char} (hc : c ∈ token) : c ∈ query := by
  rw [← Text.join_split '&' query]
  exact Text.mem_join_of_mem (List.mem_of_mem_filter h) hc

theorem mem_of_mem_tokenParts {token : Text} {c : Char}
    (h : c ∈ (tokenParts token).1 ∨ c ∈ (tokenParts token).2) : c ∈ token := by
  cases hcut : Text.cut? '=' token with
  | none =>
    rw [tokenParts_of_not_mem (Text.cut?_eq_none_iff.mp hcut)] at h
    simpa using h
  | some parts =>
    obtain ⟨heq, hname⟩ := Text.cut?_eq_some hcut
    rw [heq, tokenParts_append hname] at h
    rw [heq, List.mem_append, List.mem_cons]
    exact h.imp_right .inr

/-- In UTF-8 a normal form holds a `?` only if the query does. -/
theorem question_mem_of_mem_normalize {raw : Text} (h : '?' ∈ normalize .utf8 raw) :
    '?' ∈ raw := by
  have hwritten : ∀ {set : LiteralSet} {t : Text}, set.IsAscii →
      '?' ∈ Percent.writeRaw set .utf8 t → '?' ∈ t := by
    intro set t hset hmem
    rw [Percent.writeRaw_utf8 hset] at hmem
    exact Percent.mem_of_mem_writeRawChars (by decide) rfl hmem
  rw [normalize_eq_join] at h
  obtain ⟨_, hmem, h⟩ := (Text.mem_of_mem_join h).resolve_left (by decide)
  obtain ⟨token, htoken, rfl⟩ := List.mem_map.mp hmem
  refine mem_of_mem_tokenTexts htoken (mem_of_mem_tokenParts ?_)
  rw [writeToken, List.mem_append, List.mem_cons] at h
  rcases h with h | h | h
  · exact .inl (hwritten LiteralSet.isAscii_rawName h)
  · cases h
  · exact .inr (hwritten LiteralSet.isAscii_rawValue h)

/-- Something is left of a query that does not only hold separators. -/
theorem normalize_ne_nil (cs : Charset) {query : Text} (h : ∃ c ∈ query, c ≠ '&') :
    normalize cs query ≠ [] := by
  intro hnil
  have htokens : (tokenTexts query).map (writeToken cs) = [] := by
    rw [← tokenTexts_normalize, hnil]
    rfl
  obtain ⟨c, hc, hne⟩ := h
  rw [← Text.join_split '&' query] at hc
  obtain ⟨piece, hpiece, hc⟩ := (Text.mem_of_mem_join hc).resolve_left hne
  have htoken : piece ∈ tokenTexts query :=
    List.mem_filter.mpr ⟨hpiece, by simpa using List.ne_nil_of_mem hc⟩
  rw [List.map_eq_nil_iff.mp htokens] at htoken
  cases htoken

end Query

namespace Url

open Query (Canonical)

/-! ## What stays as it is -/

section KeepsAscii

variable {cs : Charset} (hcs : cs.KeepsAscii) {url : Text}

include hcs

/-- A text without `?` stays as it is if it counts as no query, or is canonical. -/
theorem normalizeQuery_eq_self_iff_of_no_query (h : query? url = none) :
    normalizeQuery cs url = url ↔ ('=' ∈ url → Canonical url) := by
  rw [normalizeQuery_of_no_query cs h]
  split
  · next hequals => rw [Query.normalize_eq_self_iff hcs, forall_prop_of_true hequals]
  · next hequals => exact iff_of_true rfl fun h => absurd h hequals

/-- A canonical query that reads as a url stays as it is if something stands before
its `?`, and a canonical query after it. -/
theorem normalizeQuery_eq_self_iff_of_canonical (hcanonical : Canonical url)
    {query : Text} (h : query? url = some query) :
    normalizeQuery cs url = url ↔
      base url ≠ [] ∧ query ≠ [] ∧ Canonical query := by
  have hurl : url = base url ++ '?' :: query :=
    (Text.cut?_eq_some (cut?_of_query? h)).1
  have hblank : ∀ c ∈ base url ++ '?' :: query, Text.isBlank c = false := by
    rw [← hurl]
    exact hcanonical.isBlank_of_mem
  rw [List.forall_mem_append, List.forall_mem_cons] at hblank
  obtain ⟨hbase, -, hquery⟩ := hblank
  rw [normalizeQuery_of_query? cs h]
  by_cases hnil : query = []
  · subst hnil
    -- Nothing stands after the `?`, which is dropped.
    refine iff_of_false (fun heq => ?_) fun h => h.2.1 rfl
    have hlength := congrArg List.length (Eq.trans heq hurl)
    simp [Text.allBlank] at hlength
  · rw [if_neg fun hq => hnil (Text.eq_nil_of_allBlank hquery hq)]
    by_cases hb : base url = []
    · -- The `?` begins the first name, so that what follows is canonical itself.
      rw [hb, List.nil_append] at hurl
      have hnormal : Query.normalize cs query = query :=
        (hurl ▸ hcanonical).of_question.normalize_eq_self hcs
      rw [hb, if_pos (show Text.allBlank [] = true from rfl), hnormal, hurl]
      exact iff_of_false (List.cons_ne_self _ _).symm fun h => h.1 rfl
    · rw [if_neg fun hb' => hb (Text.eq_nil_of_allBlank hbase hb')]
      constructor
      · intro heq
        have hnormal := (List.cons.inj (List.append_cancel_left (heq.trans hurl))).2
        exact ⟨hb, hnil, (Query.normalize_eq_self_iff hcs).mp hnormal⟩
      · rintro ⟨-, -, hcanonical⟩
        rw [hcanonical.normalize_eq_self hcs]
        exact hurl.symm

/-! ## Two normalizations -/

/-- Where the query is blank, the part before it is left, which has no `?`. -/
theorem normalizeQuery_twice_of_blank {query : Text} (h : query? url = some query)
    (hblank : Text.allBlank query = true) :
    normalizeQuery cs (normalizeQuery cs url) = normalizeQuery cs url ↔
      ('=' ∈ base url → Canonical (base url)) := by
  rw [normalizeQuery_of_query? cs h, if_pos hblank]
  exact normalizeQuery_eq_self_iff_of_no_query hcs
    (query?_eq_none_iff.mpr (question_not_mem_base url))

/-- Where something of the query is left, it is found again. -/
theorem normalizeQuery_twice_of_query (hbase : Text.allBlank (base url) = false)
    {query : Text} (h : query? url = some query) (hblank : Text.allBlank query = false)
    (hsome : ∃ c ∈ query, c ≠ '&') :
    normalizeQuery cs (normalizeQuery cs url) = normalizeQuery cs url := by
  have hcanonical := Query.canonical_normalize cs query
  have hleft : Text.allBlank (Query.normalize cs query) = false :=
    hcanonical.allBlank_eq_false (Query.normalize_ne_nil cs hsome)
  have hcut : Text.cut? '?' (base url ++ '?' :: Query.normalize cs query) =
      some (base url, Query.normalize cs query) :=
    Text.cut?_append (question_not_mem_base url)
  rw [normalizeQuery_of_query? cs h, hblank, hbase, if_neg (by simp),
    if_neg (by simp), normalizeQuery, hcut]
  simp only [hleft, hbase, Bool.false_eq_true, if_false,
    hcanonical.normalize_eq_self hcs]

/-- A text that counts as a query may read as a url once it is normalized. -/
theorem normalizeQuery_twice_of_no_query (h : query? url = none) :
    normalizeQuery cs (normalizeQuery cs url) = normalizeQuery cs url ↔
      ('=' ∈ url → ∀ query, query? (Query.normalize cs url) = some query →
        base (Query.normalize cs url) ≠ [] ∧ query ≠ [] ∧ Canonical query) := by
  have hcanonical := Query.canonical_normalize cs url
  by_cases hequals : '=' ∈ url
  · rw [normalizeQuery_of_no_query cs h, if_pos hequals, forall_prop_of_true hequals]
    cases hq : query? (Query.normalize cs url) with
    | none =>
      rw [normalizeQuery_eq_self_iff_of_no_query hcs hq]
      exact iff_of_true (fun _ => hcanonical) (by simp)
    | some query =>
      rw [normalizeQuery_eq_self_iff_of_canonical hcs hcanonical hq]
      simp
  · rw [normalizeQuery_of_no_query cs h, if_neg hequals,
      normalizeQuery_of_no_query cs h, if_neg hequals]
    exact iff_of_true rfl fun hequals' => absurd hequals' hequals

/-- When a second normalization changes nothing. Where the query is blank, the part
before it must not count as a query that is not canonical; where there is no `?`,
what is written must not read as a url, or as one that stays as it is. In UTF-8 it
never does read as a url. In all other urls with something before their query, and
in the query something else than separators, the second normalization finds what the
first one left. -/
theorem normalizeQuery_twice_iff (hbase : Text.allBlank (base url) = false)
    (hquery : ∀ query, query? url = some query → Text.allBlank query = false →
      ∃ c ∈ query, c ≠ '&') :
    (normalizeQuery cs (normalizeQuery cs url) = normalizeQuery cs url ↔
      (∀ query, query? url = some query → Text.allBlank query = true →
        '=' ∈ base url → Canonical (base url)) ∧
      (query? url = none → '=' ∈ url →
        ∀ query, query? (Query.normalize cs url) = some query →
          base (Query.normalize cs url) ≠ [] ∧ query ≠ [] ∧ Canonical query)) ∧
    (query? url = none → query? (Query.normalize .utf8 url) = none) := by
  constructor
  · cases h : query? url with
    | none =>
      rw [normalizeQuery_twice_of_no_query hcs h]
      simp
    | some query =>
      cases hblank : Text.allBlank query with
      | true =>
        rw [normalizeQuery_twice_of_blank hcs h hblank]
        simp [hblank]
      | false =>
        refine iff_of_true ?_ (by simp [hblank])
        exact normalizeQuery_twice_of_query hcs hbase h hblank (hquery query h hblank)
  · rw [query?_eq_none_iff, query?_eq_none_iff]
    exact mt Query.question_mem_of_mem_normalize

end KeepsAscii

/-- A parameter in the path that is not written out, a second `?`, bytes of a script
that are a `?`, a broken escape and an empty token. -/
theorem normalizeQuery_twice_iff_iso2022jp :
    Charset.iso2022jp.KeepsAscii ∧
    Text.allBlank (base "/p;v= ?a?=人%4&&b".toList) = false ∧
    (∀ query, query? "/p;v= ?a?=人%4&&b".toList = some query →
      Text.allBlank query = false → ∃ c ∈ query, c ≠ '&') ∧
    normalizeQuery .iso2022jp "/p;v= ?a?=人%4&&b".toList =
      "/p;v= ?a?=%1B$B?M%1B(B%254&b=".toList ∧
    normalizeQuery .iso2022jp "/p;v= ?a?=%1B$B?M%1B(B%254&b=".toList =
      "/p;v= ?a?=%1B$B?M%1B(B%254&b=".toList := by
  have hcs : Charset.iso2022jp.KeepsAscii := Charset.keepsAscii_iso2022jp
  have hbase : Text.allBlank (base "/p;v= ?a?=人%4&&b".toList) = false := by decide
  have hquery : query? "/p;v= ?a?=人%4&&b".toList = some "a?=人%4&&b".toList := by
    decide
  have hsome : ∀ query, query? "/p;v= ?a?=人%4&&b".toList = some query →
      Text.allBlank query = false → ∃ c ∈ query, c ≠ '&' := by
    intro query h _
    rw [hquery] at h
    cases h
    exact ⟨'a', by decide, by decide⟩
  have honce : normalizeQuery .iso2022jp "/p;v= ?a?=人%4&&b".toList =
      "/p;v= ?a?=%1B$B?M%1B(B%254&b=".toList := by decide +kernel
  refine ⟨hcs, hbase, hsome, honce, ?_⟩
  rw [← honce]
  refine (normalizeQuery_twice_iff hcs hbase hsome).1.mpr ⟨?_, ?_⟩
  · intro query h hblank
    rw [hquery] at h
    cases h
    cases hblank
  · intro h
    rw [hquery] at h
    cases h

/-- What is left of a url with a parameter in its path and a blank query counts as a
query the next time. -/
theorem normalizeQuery_path_parameter :
    Charset.utf8.KeepsAscii ∧
    Text.allBlank (base "/p;v=1 2?".toList) = false ∧
    normalizeQuery .utf8 "/p;v=1 2?".toList = "/p;v=1 2".toList ∧
    normalizeQuery .utf8 "/p;v=1 2".toList = "/p;v=1%202".toList ∧
    normalizeQuery .utf8 (normalizeQuery .utf8 "/p;v=1 2?".toList) ≠
      normalizeQuery .utf8 "/p;v=1 2?".toList := by
  refine ⟨Charset.keepsAscii_of_utf8 rfl, ?_⟩
  decide +kernel

end Url

end HttpExchange
