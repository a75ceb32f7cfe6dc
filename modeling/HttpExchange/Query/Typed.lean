import HttpExchange.Form.Encode
import HttpExchange.Query.Error
import HttpExchange.Sorted

/-! Typed reading and writing of queries as forms: UTF-8, with `+` for a
space. -/

namespace HttpExchange.Query

/-- A value written as a form. -/
def ofValue (v : Form.Value) : Except QueryError Text :=
  (Form.encode v).mapError .notWritable

/-- A pair with its value read as a type says. -/
def readPair (type : Form.FieldType) (pair : Text × Text) :
    Except Form.DecodeError (Text × Form.FieldValue) :=
  (type.read pair.2).map fun value => (pair.1, value)

/-- The pairs of a form in order, their values read as a type says. -/
def readPairs (type : Form.FieldType) (raw : Text) :
    Except QueryError (List (Text × Form.FieldValue)) :=
  ((Form.parse raw).mapM (readPair type)).mapError .notReadable

/-- The last value of each name, sorted by name. -/
def readSorted (type : Form.FieldType) (raw : Text) :
    Except QueryError (Sorted Text Form.FieldValue) :=
  (readPairs type raw).map fun pairs =>
    pairs.foldl (fun m (name, value) => m.insert name value) []

/-- The fields of a record. -/
def readRecord (schema : Form.Schema) (raw : Text) :
    Except QueryError (List (Option Form.FieldValue)) :=
  (schema.read (Form.parse raw)).mapError .notReadable

end HttpExchange.Query
