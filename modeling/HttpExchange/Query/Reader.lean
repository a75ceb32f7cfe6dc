import HttpExchange.Percent.Decode
import HttpExchange.Query.Error

/-! Reading a query into pairs. The query is cut at every `&`, empty tokens are
passed over, and a token is cut at its first `=`; only then are escapes
replaced, so that an escaped separator is data. A `%` that begins no escape is
an error, or stays as it is if the reader is lenient. -/

namespace HttpExchange

/-- How a query is read. -/
structure QueryReader where
  charset : Charset
  /-- Whether broken escapes stay as they are. -/
  lenient : Bool := false
  /-- Whether `+` reads as a space. -/
  plusIsSpace : Bool := false
  /-- Whether everything up to the first `?` is left out. -/
  skipPath : Bool := false

/-- Values by name, in the order of the names. -/
abbrev LastValues := List (Text × Text)

/-- All values by name, in the order of the names. -/
abbrev AllValues := List (Text × List Text)

/-- The map with a value for a name. A name that it has keeps its place. -/
def LastValues.insert (name value : Text) : LastValues → LastValues
  | [] => [(name, value)]
  | (other, old) :: rest =>
    if other = name then (other, value) :: rest
    else (other, old) :: LastValues.insert name value rest

/-- The map with one value more for a name. -/
def AllValues.add (name value : Text) : AllValues → AllValues
  | [] => [(name, [value])]
  | (other, values) :: rest =>
    if other = name then (other, values ++ [value]) :: rest
    else (other, values) :: AllValues.add name value rest

namespace QueryReader

/-- The text of a name or value, its broken escapes left as they are. -/
def readText (r : QueryReader) (component : Text) : Text :=
  r.charset.decode (Percent.decode
    (if r.plusIsSpace then component.map fun c => if c = '+' then ' ' else c
     else component))

/-- The text of a name or value. -/
def readComponent (r : QueryReader) (component : Text) :
    Except QueryError Text :=
  match Percent.brokenEscape? component with
  | some rest =>
    if r.lenient then .ok (r.readText component)
    else .error (.brokenEscape (rest.take 3) component)
  | none => .ok (r.readText component)

/-- The name and the value of a token, as they stand. -/
def tokenParts (token : Text) : Text × Text :=
  (Text.cut? '=' token).getD (token, [])

/-- The pair that a token holds. The name is read before the value. -/
def readToken (r : QueryReader) (token : Text) :
    Except QueryError (Text × Text) :=
  let (name, value) := tokenParts token
  match r.readComponent name with
  | .error e => .error e
  | .ok name => (r.readComponent value).map fun value => (name, value)

/-- The part of a text that is read as a query. -/
def queryOf (r : QueryReader) (raw : Text) : Text :=
  if r.skipPath then
    match Text.cut? '?' raw with
    | some (_, query) => query
    | none => raw
  else raw

/-- The tokens of a query that are not empty. -/
def tokenTexts (query : Text) : List Text :=
  (Text.split '&' query).filter fun token => !token.isEmpty

/-- The pairs of a query, in order, repeated names included. -/
def pairs (r : QueryReader) (raw : Text) :
    Except QueryError (List (Text × Text)) :=
  (tokenTexts (r.queryOf raw)).mapM r.readToken

/-- The last value of each name, in the order in which the names are first
seen. -/
def lastValues (r : QueryReader) (raw : Text) : Except QueryError LastValues :=
  (r.pairs raw).map fun pairs =>
    pairs.foldl (fun m (name, value) => LastValues.insert name value m) []

/-- The values of each name in order, the names in the order in which they are
first seen. -/
def allValues (r : QueryReader) (raw : Text) : Except QueryError AllValues :=
  (r.pairs raw).map fun pairs =>
    pairs.foldl (fun m (name, value) => AllValues.add name value m) []

end QueryReader

end HttpExchange
