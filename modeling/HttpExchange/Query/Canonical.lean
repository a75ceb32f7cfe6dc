import HttpExchange.Percent.Written

/-! The canonical form of a query, as a grammar: tokens joined by single `&`
signs, each of them a name and a value, both written out, with `=` between
them. -/

namespace HttpExchange.Query

/-- A name and a value, both written out, with `=` between them. -/
def CanonicalToken (token : Text) : Prop :=
  ∃ name value, Percent.Written .rawName name ∧
    Percent.Written .rawValue value ∧ token = name ++ '=' :: value

/-- A query of canonical tokens; the empty query has none. -/
def Canonical (query : Text) : Prop :=
  ∃ tokens : List Text, (∀ token ∈ tokens, CanonicalToken token) ∧
    query = Text.join '&' tokens

end HttpExchange.Query
