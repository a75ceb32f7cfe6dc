import HttpExchange.Decimal.Literal
import HttpExchange.Form.Parse
import HttpExchange.Text.Quoted

/-! Typed records from forms. A schema names the fields, says what type each has
and what holds when it is missing. Pairs are read in order of appearance and the
first failure wins; fields that are missing are found at the end, in the order
of the schema. -/

namespace HttpExchange.Form

/-- What the text of a field is read as. -/
inductive FieldType where
  | text
  | integer (range : Decimal.Range)
  | boolean
  | float (format : Decimal.BinaryFormat)
  | character
  | choice (names : List Text)

/-- What a field holds. -/
inductive FieldValue where
  | text (t : Text)
  | integer (n : Int)
  | boolean (b : Bool)
  | float (x : Decimal.Binary)
  | character (c : Char)
  | choice (name : Text)
  deriving DecidableEq, Repr

/-- What holds when a field is missing. -/
inductive Presence where
  | required
  | optional
  | defaulting (value : FieldValue)

/-- A field of a schema. -/
structure Field where
  name : Text
  type : FieldType
  presence : Presence

/-- The fields of a record, and whether a pair of another name is an error. -/
structure Schema where
  fields : List Field
  closed : Bool

/-- Why a form is not a record. -/
inductive DecodeError where
  | missingField (name : Text)
  | duplicateField (name : Text)
  | unknownField (name : Text) (expected : List Text)
  | unknownChoice (name : Text) (expected : List Text)
  | notACharacter (t : Text)
  | integer (cause : Decimal.IntegerError)
  | float (cause : Decimal.FloatError)
  | notABoolean
  deriving DecidableEq, Repr

/-- The names that were expected, `none` standing for there being none. -/
def oneOf (none : Text) : List Text → Text
  | [] => none
  | [a] => "expected ".toList ++ Text.tick a
  | [a, b] => "expected ".toList ++ Text.tick a ++ " or ".toList ++ Text.tick b
  | names =>
    "expected one of ".toList
      ++ (", ".toList).intercalate (names.map Text.tick)

/-- The wording of an error. -/
def DecodeError.message : DecodeError → Text
  | missingField name => "missing field ".toList ++ Text.tick name
  | duplicateField name => "duplicate field ".toList ++ Text.tick name
  | unknownField name expected =>
    "unknown field ".toList ++ Text.tick name ++ ", ".toList
      ++ oneOf "there are no fields".toList expected
  | unknownChoice name expected =>
    "unknown variant ".toList ++ Text.tick name ++ ", ".toList
      ++ oneOf "there are no variants".toList expected
  | notACharacter t =>
    "invalid value: string ".toList ++ Text.quote t
      ++ ", expected a character".toList
  | integer .empty => "cannot parse integer from empty string".toList
  | integer .invalidDigit => "invalid digit found in string".toList
  | integer .tooLarge => "number too large to fit in target type".toList
  | integer .tooSmall => "number too small to fit in target type".toList
  | float .empty => "cannot parse float from empty string".toList
  | float .invalid => "invalid float literal".toList
  | notABoolean =>
    "provided string was not ".toList ++ Text.tick ['t', 'r', 'u', 'e']
      ++ " or ".toList ++ Text.tick ['f', 'a', 'l', 's', 'e']

/-- The text of a field read as its type says. -/
def FieldType.read (type : FieldType) (t : Text) :
    Except DecodeError FieldValue :=
  match type with
  | .text => .ok (.text t)
  | .integer range =>
    match Decimal.readInteger range t with
    | .ok n => .ok (.integer n)
    | .error e => .error (.integer e)
  | .boolean =>
    if t = ['t', 'r', 'u', 'e'] then .ok (.boolean true)
    else if t = ['f', 'a', 'l', 's', 'e'] then .ok (.boolean false)
    else .error .notABoolean
  | .float format =>
    match Decimal.readFloat format t with
    | .ok x => .ok (.float x)
    | .error e => .error (.float e)
  | .character =>
    match t with
    | [c] => .ok (.character c)
    | _ => .error (.notACharacter t)
  | .choice names =>
    if names.contains t then .ok (.choice t)
    else .error (.unknownChoice t names)

/-- The fields that have been read, by name. -/
abbrev Reading := List (Text × FieldValue)

/-- One pair. -/
def Schema.readPair (schema : Schema) (done : Reading) (pair : Text × Text) :
    Except DecodeError Reading :=
  match schema.fields.find? fun field => field.name = pair.1 with
  | none =>
    if schema.closed then
      .error (.unknownField pair.1 (schema.fields.map Field.name))
    else .ok done
  | some field =>
    if (done.lookup field.name).isSome then .error (.duplicateField field.name)
    else (field.type.read pair.2).map fun value =>
      done ++ [(field.name, value)]

/-- The value of a field when all pairs have been read; `none` if it is optional
and missing. -/
def Field.settle (field : Field) (done : Reading) :
    Except DecodeError (Option FieldValue) :=
  match done.lookup field.name, field.presence with
  | some value, _ => .ok (some value)
  | none, .required => .error (.missingField field.name)
  | none, .optional => .ok none
  | none, .defaulting value => .ok (some value)

/-- The values of a record's fields, in the order of the schema. -/
def Schema.read (schema : Schema) (pairs : List (Text × Text)) :
    Except DecodeError (List (Option FieldValue)) := do
  let done ← pairs.foldlM schema.readPair []
  schema.fields.mapM fun field => field.settle done

end HttpExchange.Form
