import HttpExchange.Body.Sink
import HttpExchange.File.Path

/-! File systems, as far as downloads need one. The state of a file system is a
value; an operation gives its answer and the state after it. A file that has
been created is written by appending to it. -/

namespace HttpExchange

/-- The operations of a file system with states `σ`. -/
class FileStore (σ : Type) where
  isDirectory : σ → Path → Bool
  /-- Creates a file, or empties it if it exists. The sink tells how writes to
  the file go. -/
  create : σ → Path → Except IoError Sink × σ
  /-- The state after bytes have been written to a file that was created. -/
  append : σ → Path → Bytes → σ
  /-- Renames `source` to `target`. A target that exists is replaced only with
  `overwrite`. -/
  rename (state : σ) (source target : Path) (overwrite : Bool) :
    Except IoError Unit × σ
  /-- Removes a file. That it does not exist is no error. -/
  remove : σ → Path → Except IoError Unit × σ

end HttpExchange
