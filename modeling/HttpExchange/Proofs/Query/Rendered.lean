import HttpExchange.Proofs.Query.Incremental

/-! Queries that are rendered already. What can be added to a url is parameters, or
a query in which they have been written; the query is normalized first where that
of the url is. For a canonical query that makes no difference, and the query that
parameters make is canonical: whatever its sets leave literal in a name or a value,
the sets for raw text leave literal there as well, and nothing else is left but
escapes. So both ways lead to the same url. -/

namespace HttpExchange.Url

section KeepsAscii

variable {cs : Charset} (hcs : cs.KeepsAscii)

include hcs

/-- A canonical query is added as it is. -/
theorem addQuery_of_canonical {query : Text} (h : Query.Canonical query)
    (normalizeBoth : Bool) (url : Text) :
    addQuery cs normalizeBoth url query = extend cs normalizeBoth url query := by
  cases normalizeBoth with
  | false => rfl
  | true =>
    show extend cs true url (Query.normalize cs query) = _
    rw [h.normalize_eq_self hcs]

/-- The query of parameters is its own normal form. To add it as a query is to add
the parameters, whether the query of the url is normalized or not. -/
theorem addQuery_ofParameters (params : List Parameter) :
    Query.normalize cs (Query.ofParameters cs params) =
      Query.ofParameters cs params ∧
    ∀ normalizeBoth url,
      addQuery cs normalizeBoth url (Query.ofParameters cs params) =
        addParameters cs normalizeBoth url params := by
  have hcanonical : Query.Canonical (Query.ofParameters cs params) :=
    Query.canonical_ofParameters cs params
  refine ⟨hcanonical.normalize_eq_self hcs, fun normalizeBoth url => ?_⟩
  exact addQuery_of_canonical hcs hcanonical normalizeBoth url

end KeepsAscii

/-- Bytes of a script that are a `?`, a separator and a letter of ASCII, an escape
and a plus sign as data, and a parameter without name. -/
theorem addQuery_ofParameters_iso2022jp :
    let params : List Parameter :=
      [⟨"人=".toList, some "日%41+".toList⟩, ⟨[], some ['x']⟩, .bare ['a']]
    Charset.iso2022jp.KeepsAscii ∧
    Query.ofParameters .iso2022jp params =
      "%1B$B?M%1B(B%3D=%1B$BF%7C%1B(B%2541%2B&a=".toList ∧
    Query.normalize .iso2022jp (Query.ofParameters .iso2022jp params) =
      Query.ofParameters .iso2022jp params ∧
    addQuery .iso2022jp true "x?%4&".toList (Query.ofParameters .iso2022jp params) =
      addParameters .iso2022jp true "x?%4&".toList params ∧
    addParameters .iso2022jp true "x?%4&".toList params =
      "x?%254=&%1B$B?M%1B(B%3D=%1B$BF%7C%1B(B%2541%2B&a=".toList := by
  intro params
  have hcs : Charset.iso2022jp.KeepsAscii := Charset.keepsAscii_iso2022jp
  obtain ⟨hnormal, hadd⟩ := addQuery_ofParameters hcs params
  exact ⟨hcs, by decide +kernel, hnormal, hadd true _, by decide +kernel⟩

end HttpExchange.Url
