import HttpExchange.Charset.Label
import HttpExchange.Form.Record
import HttpExchange.Form.Value

/-! What can go wrong with a query. -/

namespace HttpExchange

/-- Why a query could not be written or read. -/
inductive QueryError where
  /-- A `%` in the component `input` begins no escape; `sequence` is the text
  from it on, at most three characters. -/
  | brokenEscape (sequence input : Text)
  | unknownCharset (label : Text)
  | notWritable (cause : Form.EncodeError)
  | notReadable (cause : Form.DecodeError)
  deriving DecidableEq, Repr

/-- The wording of an error. -/
def QueryError.message : QueryError → Text
  | brokenEscape sequence input =>
    "malformed percent-encoding ".toList ++ Text.tick sequence
      ++ " in ".toList ++ Text.tick input
  | unknownCharset label => "unknown charset: ".toList ++ label
  | notWritable cause => "serialize form error: ".toList ++ cause.message
  | notReadable cause => "deserialize query error: ".toList ++ cause.message

/-- The charset with a label, around which any white space may stand. -/
def Charset.named (label : Text) : Except QueryError Charset :=
  match Charset.ofLabel? (Text.trim label) with
  | some cs => .ok cs
  | none => .error (.unknownCharset label)

end HttpExchange
