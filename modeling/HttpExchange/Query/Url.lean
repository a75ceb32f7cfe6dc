import HttpExchange.Query.Normal
import HttpExchange.Query.Parameter
import HttpExchange.Text.Blank

/-! Queries in urls. The query of a url is everything after its first `?`. -/

namespace HttpExchange.Url

/-- The url with its query in normal form. A blank query is dropped together
with its `?`, before which a blank part is dropped as well. A text without `?`
counts as a query if it holds a `=`, and else stays as it is. -/
def normalizeQuery (cs : Charset) (url : Text) : Text :=
  match Text.cut? '?' url with
  | some (base, query) =>
    if Text.allBlank query then base
    else if Text.allBlank base then Query.normalize cs query
    else base ++ '?' :: Query.normalize cs query
  | none => if url.contains '=' then Query.normalize cs url else url

/-- Two queries with a single `&` in between. -/
def concat (first second : Text) : Text :=
  if first.isEmpty then second
  else if first.getLast? = some '&' then first ++ second
  else first ++ '&' :: second

/-- The url with `query` after the query that it has, which is normalized first
if `normalizeExisting` says so. A blank `query` adds nothing. -/
def extend (cs : Charset) (normalizeExisting : Bool) (url query : Text) :
    Text :=
  if Text.allBlank query then
    if normalizeExisting && url.contains '?' then normalizeQuery cs url else url
  else
    match Text.cut? '?' url with
    | some (base, existing) =>
      let existing :=
        if normalizeExisting then Query.normalize cs existing else existing
      base ++ '?' :: concat existing query
    | none => url ++ '?' :: query

/-- The url with parameters added to its query. -/
def addParameters (cs : Charset) (normalizeExisting : Bool) (url : Text)
    (params : List Parameter) : Text :=
  extend cs normalizeExisting url (Query.ofParameters cs params)

/-- The url with a query added to its own. Both are normalized, or neither. -/
def addQuery (cs : Charset) (normalize : Bool) (url query : Text) : Text :=
  extend cs normalize url
    (if normalize then Query.normalize cs query else query)

end HttpExchange.Url
