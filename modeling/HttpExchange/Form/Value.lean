import HttpExchange.Decimal.Layout
import HttpExchange.Decimal.Numeral
import HttpExchange.Text.Utf8

/-! Values that a form can be made of. They are a general data model, of which a
form takes a part: at the top a map, a record or a sequence of pairs; below it
keys and values that have a text. -/

namespace HttpExchange.Form

/-- A structured value. -/
inductive Value where
  /-- An optional value that is absent. -/
  | absent
  /-- An optional value that is present. -/
  | present (v : Value)
  | unit
  /-- A record type without fields, by its name. -/
  | unitNamed (name : Text)
  | boolean (b : Bool)
  /-- An integer of at most 64 bits. -/
  | integer (n : Int)
  /-- An integer of 128 bits, with or without a sign. -/
  | wideInteger (signed : Bool) (n : Int)
  | float (layout : Decimal.FloatLayout) (x : Decimal.Binary)
  | character (c : Char)
  | text (t : Text)
  | bytes (b : Bytes)
  /-- An alternative of an enumeration that holds nothing. -/
  | choice (name : Text)
  /-- A value in a wrapper type. -/
  | wrapped (v : Value)
  /-- An alternative of an enumeration that holds a value. -/
  | choiceOf (name : Text) (v : Value)
  | sequence (vs : List Value)
  | tuple (vs : List Value)
  | map (entries : List (Value × Value))
  | record (fields : List (Text × Value))
  deriving Inhabited

/-- Why a value has no form. -/
inductive EncodeError where
  | notAForm
  | unsupportedPair
  | unsupportedKey
  | unsupportedValue
  | wideInteger (signed : Bool)
  | notText (cause : Utf8.Error)
  deriving DecidableEq, Repr

/-- The wording of an error. -/
def EncodeError.message : EncodeError → Text
  | notAForm => "top-level serializer supports only maps and structs".toList
  | unsupportedPair => "unsupported pair".toList
  | unsupportedKey => "unsupported key".toList
  | unsupportedValue => "unsupported value".toList
  | wideInteger true => "i128 is not supported".toList
  | wideInteger false => "u128 is not supported".toList
  | notText cause => "invalid UTF-8: ".toList ++ cause.message

/-- The text of a value that has one on its own; `none` for the others. -/
def Value.plainText? : Value → Option (Except EncodeError Text)
  | .unitNamed name => some (.ok name)
  | .boolean true => some (.ok ['t', 'r', 'u', 'e'])
  | .boolean false => some (.ok ['f', 'a', 'l', 's', 'e'])
  | .integer n => some (.ok (Decimal.writeInteger n))
  | .wideInteger _ n => some (.ok (Decimal.writeInteger n))
  | .float layout x => some (.ok (Decimal.writeFloat layout x))
  | .character c => some (.ok [c])
  | .text t => some (.ok t)
  | .bytes b =>
    match Utf8.validate b with
    | .ok t => some (.ok t)
    | .error e => some (.error (.notText e))
  | .choice name => some (.ok name)
  | _ => none

/-- The text of a key. Wrappers are looked through, optional values are not. -/
def Value.keyText : Value → Except EncodeError Text
  | .wrapped v => v.keyText
  | v => (v.plainText?).getD (.error .unsupportedKey)

/-- The text of a value in a pair, `none` if an optional value is absent.
Wrappers and optional values are looked through. -/
def Value.valueText : Value → Except EncodeError (Option Text)
  | .absent => .ok none
  | .present v => v.valueText
  | .wrapped v => v.valueText
  | v =>
    match v.plainText? with
    | some found => found.map some
    | none => .error .unsupportedValue

/-- A key with its value, in this order; `none` if the value is absent. -/
def pairText (key value : Value) : Except EncodeError (Option (Text × Text)) :=
  match key.keyText with
  | .error e => .error e
  | .ok k => value.valueText.map fun v => v.map fun v => (k, v)

/-- The pair that an element of a sequence holds: a tuple of two. -/
def Value.pair : Value → Except EncodeError (Option (Text × Text))
  | .absent => .ok none
  | .present v => v.pair
  | .wrapped v => v.pair
  | .tuple [key, value] => pairText key value
  | .wideInteger signed _ => .error (.wideInteger signed)
  | _ => .error .unsupportedPair

/-- The pairs of a form, in order. Pairs whose value is absent are left out. -/
def Value.pairs : Value → Except EncodeError (List (Text × Text))
  | .absent => .ok []
  | .unit => .ok []
  | .unitNamed _ => .ok []
  | .present v => v.pairs
  | .wrapped v => v.pairs
  | .sequence vs => (vs.mapM Value.pair).map (List.filterMap id)
  | .tuple vs => (vs.mapM Value.pair).map (List.filterMap id)
  | .map entries =>
    (entries.mapM fun (k, v) => pairText k v).map (List.filterMap id)
  | .record fields =>
    (fields.mapM fun (k, v) => pairText (.text k) v).map (List.filterMap id)
  | .wideInteger signed _ => .error (.wideInteger signed)
  | _ => .error .notAForm

end HttpExchange.Form
