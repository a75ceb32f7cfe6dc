import HttpExchange.Percent.Component

/-! Parameters as data and the query that they make. -/

namespace HttpExchange

/-- A name with a value, or without one. -/
structure Parameter where
  name : Text
  value : Option Text
  deriving DecidableEq, Repr

namespace Parameter

/-- A parameter without value. -/
def bare (name : Text) : Parameter :=
  ⟨name, none⟩

/-- The parameter written as `name=value`, or as `name=` without a value. Both
are data: each `%` and each `+` in them is escaped. -/
def write (cs : Charset) (p : Parameter) : Text :=
  Percent.writeData .dataName cs p.name ++ '=' ::
    match p.value with
    | some value => Percent.writeData .dataValue cs value
    | none => []

end Parameter

namespace Query

/-- The query that parameters make, in order. Those with an empty name are left
out. -/
def ofParameters (cs : Charset) (params : List Parameter) : Text :=
  Text.join '&' ((params.filter fun p => !p.name.isEmpty).map
    (Parameter.write cs))

end Query

end HttpExchange
