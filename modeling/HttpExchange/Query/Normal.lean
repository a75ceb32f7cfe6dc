import HttpExchange.Percent.Component

/-! Normal form of a raw query. One pass over the text notes where each name and
each value lies; a name ends at the first `=` of its token, a token at the next
`&` or at the end. An empty token is passed over, and a token without `=` is a
name with an empty value. The normal form writes every name and value out as a
component and joins them again. -/

namespace HttpExchange.Query

/-- Where the name and the value of a token lie. -/
structure Token where
  name : Span
  value : Span
  deriving DecidableEq, Repr

/-- The token that ends at offset `stop`: its name, if an `=` has ended it, and
otherwise all of it, if there is any of it. -/
def closeToken (start stop : Nat) (name : Option Span) : List Token :=
  match name with
  | some name => [⟨name, ⟨start, stop⟩⟩]
  | none => if start = stop then [] else [⟨⟨start, stop⟩, ⟨stop, stop⟩⟩]

/-- The tokens of a text whose first character lies at `offset`. The piece under
way began at `start`, and `name` is the name of its token if that has ended. -/
def tokensFrom (start offset : Nat) (name : Option Span) : Text → List Token
  | [] => closeToken start offset name
  | c :: rest =>
    if c = '=' ∧ name.isNone then
      tokensFrom (offset + 1) (offset + 1) (some ⟨start, offset⟩) rest
    else if c = '&' then
      closeToken start offset name ++
        tokensFrom (offset + 1) (offset + 1) none rest
    else tokensFrom start (offset + Utf8.size c) name rest

/-- The tokens of a raw query, in order. -/
def tokens (raw : Text) : List Token :=
  tokensFrom 0 0 none raw

/-- A token of `raw` written as `name=value`. -/
def Token.write (cs : Charset) (raw : Text) (token : Token) : Text :=
  Percent.writeRaw .rawName cs (raw.slice token.name) ++ '=' ::
    Percent.writeRaw .rawValue cs (raw.slice token.value)

/-- The normal form of a raw query. -/
def normalize (cs : Charset) (raw : Text) : Text :=
  Text.join '&' ((tokens raw).map (Token.write cs raw))

end HttpExchange.Query
