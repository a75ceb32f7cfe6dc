import HttpExchange.Text.Blank
import HttpExchange.Text.Utf8

/-! Fixture files of queries: one query to a line. Blank lines and lines that
begin with `#` are passed over. -/

namespace HttpExchange.Fixture

/-- A text file with a name. -/
structure File where
  name : Text
  content : Text
  deriving DecidableEq, Repr

/-- How much work a case is. -/
inductive Size where
  | small
  | large
  deriving DecidableEq, Repr

/-- A file of queries to measure with. -/
structure Case where
  name : Text
  size : Size
  file : File
  deriving DecidableEq, Repr

namespace File

/-- The queries of a file, without white space around them, which takes care of
carriage returns before line feeds as well. -/
def queries (f : File) : List Text :=
  ((Text.split '\n' f.content).map Text.trim).filter fun line =>
    !line.isEmpty && line.head? ≠ some '#'

end File

/-- The number of bytes of all queries of a case. -/
def Case.bytes (c : Case) : Nat :=
  Utf8.length c.file.queries.flatten

end HttpExchange.Fixture
