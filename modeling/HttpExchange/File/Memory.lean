import HttpExchange.File.Store
import HttpExchange.Sorted

/-! A file system in memory. Paths are compared as text and have no structure;
which of them are directories is given. Operations can be made to fail, and the
writes to every file follow one script. -/

namespace HttpExchange

/-- Files by path, in ascending order, the directories, and what fails. -/
structure Memory where
  files : Sorted Path Bytes := []
  directories : List Path := []
  createError : Option IoError := none
  renameError : Option IoError := none
  removeError : Option IoError := none
  sink : Sink := {}
  deriving DecidableEq, Repr

namespace Memory

/-- The content of a file. -/
def read? (m : Memory) (path : Path) : Option Bytes :=
  m.files.get? path

/-- The memory with a file. -/
def put (m : Memory) (path : Path) (data : Bytes) : Memory :=
  { m with files := m.files.insert path data }

/-- The memory without a file. -/
def erase (m : Memory) (path : Path) : Memory :=
  { m with files := m.files.erase path }

/-- The memory after a file has been moved, if there is one to move. -/
def move (m : Memory) (source target : Path) : Memory :=
  match m.read? source with
  | some data => (m.erase source).put target data
  | none => m

/-- The answer of an operation that may have been made to fail. -/
def answer {α : Type} (error : Option IoError) (value : α) (before after : Memory) :
    Except IoError α × Memory :=
  match error with
  | some e => (.error e, before)
  | none => (.ok value, after)

instance : FileStore Memory where
  isDirectory m path := m.directories.contains path
  create m path := answer m.createError m.sink m (m.put path [])
  append m path bytes := m.put path ((m.read? path).getD [] ++ bytes)
  rename m source target _ :=
    answer m.renameError () m (m.move source target)
  remove m path := answer m.removeError () m (m.erase path)

end Memory

end HttpExchange
