import HttpExchange.File.Store
import HttpExchange.Sorted
import HttpExchange.Text.Utf8

/-! A file system on a disk: a tree of directories in which relative paths are
looked up name by name, as POSIX prescribes, with the errors that Linux reports.
All work is done by a user to whom nothing is forbidden, and there are no
links. -/

namespace HttpExchange

/-- What a name in a directory stands for. -/
inductive DiskEntry where
  | file (data : Bytes)
  | directory
  deriving DecidableEq, Repr

/-- The names that lead from the current directory to an entry. -/
abbrev Location := List Text

/-- Everything below the current directory, in ascending order. The directory
itself is not listed. -/
structure Disk where
  entries : Sorted Location DiskEntry := []
  deriving DecidableEq, Repr

namespace Disk

/-! ## Entries -/

/-- The entry at a location. -/
def entry? (d : Disk) (l : Location) : Option DiskEntry :=
  if l.isEmpty then some .directory else d.entries.get? l

/-- The disk with an entry, in the place of one at the same location. -/
def put (d : Disk) (l : Location) (e : DiskEntry) : Disk :=
  ⟨d.entries.insert l e⟩

/-- The disk without an entry. -/
def erase (d : Disk) (l : Location) : Disk :=
  ⟨d.entries.erase l⟩

/-- The disk without an entry and all that is below it. -/
def eraseTree (d : Disk) (l : Location) : Disk :=
  ⟨d.entries.filter fun entry => !l.isPrefixOf entry.1⟩

/-- The disk with a directory, and all that is below it, at another location. -/
def moveTree (d : Disk) (source target : Location) : Disk :=
  let moved := d.entries.filterMap fun (l, e) =>
    (source.isPrefixOf? l).map fun below => (target ++ below, e)
  moved.foldl (fun d (l, e) => d.put l e)
    ((d.eraseTree source).eraseTree target)

/-- Whether there is anything below a location. -/
def hasChildren (d : Disk) (l : Location) : Bool :=
  d.entries.any fun entry => l.isPrefixOf entry.1 && entry.1 ≠ l

/-! ## Looking up paths -/

/-- The errors of the system that looking up and changing entries reports. -/
inductive DiskError where
  | noEntry
  | busy
  | alreadyThere
  | notDirectory
  | isDirectory
  | invalid
  | nameTooLong
  | notEmpty
  /-- The path holds a NUL character, which no call of the system takes. -/
  | nulInPath
  deriving DecidableEq, Repr

/-- The error that callers see. -/
def DiskError.toIoError : DiskError → IoError
  | noEntry => .system 2
  | busy => .system 16
  | alreadyThere => .system 17
  | notDirectory => .system 20
  | isDirectory => .system 21
  | invalid => .system 22
  | nameTooLong => .system 36
  | notEmpty => .system 39
  | nulInPath =>
    .message .invalidInput
      "file name contained an unexpected NUL byte".toList

/-- The last part of a path. -/
inductive LastName where
  | here
  | above
  | name (name : Text)
  deriving DecidableEq, Repr

/-- A path whose directory part has been looked up: the directory, the last
name, and whether a slash follows it. -/
structure Place where
  directory : Location
  last : LastName
  slash : Bool
  deriving DecidableEq, Repr

/-- What a piece of a path means. -/
def LastName.of (piece : Text) : LastName :=
  if piece = ['.'] then .here
  else if piece = ['.', '.'] then .above
  else .name piece

/-- One name looked up in a directory, whether or not there is such an entry. -/
def enter (d : Disk) (l : Location) (n : LastName) :
    Except DiskError Location :=
  match d.entry? l with
  | some .directory =>
    match n with
    | .here => .ok l
    | .above => .ok l.dropLast
    | .name name =>
      if 255 < Utf8.length name then .error .nameTooLong else .ok (l ++ [name])
  | some (.file _) => .error .notDirectory
  | none => .error .noEntry

/-- Names looked up one after another. -/
def walk (d : Disk) : Location → List Text → Except DiskError Location
  | l, [] => .ok l
  | l, piece :: rest =>
    match d.enter l (.of piece) with
    | .error e => .error e
    | .ok next => d.walk next rest

/-- The directory part of a path looked up. It has to exist. -/
def place (d : Disk) (p : Path) : Except DiskError Place :=
  if p.contains '\x00' then .error .nulInPath
  else if p.isEmpty then .error .noEntry
  else if 4096 ≤ Utf8.length p then .error .nameTooLong
  else
    let pieces := (Text.split '/' p).filter fun piece => !piece.isEmpty
    match d.walk [] pieces.dropLast with
    | .error e => .error e
    | .ok directory =>
      match d.entry? directory with
      | some .directory =>
        .ok ⟨directory, .of (pieces.getLast?.getD ['.']),
          p.getLast? = some '/'⟩
      | some (.file _) => .error .notDirectory
      | none => .error .noEntry

/-- The entry that a path leads to, with its location. -/
def resolve (d : Disk) (p : Path) : Except DiskError (Location × DiskEntry) :=
  match d.place p with
  | .error e => .error e
  | .ok x =>
    match d.enter x.directory x.last with
    | .error e => .error e
    | .ok l =>
      match d.entry? l with
      | none => .error .noEntry
      | some .directory => .ok (l, .directory)
      | some (.file data) =>
        if x.slash then .error .notDirectory else .ok (l, .file data)

/-- Whether a path leads to a directory. -/
def isDirectory (d : Disk) (p : Path) : Bool :=
  match d.resolve p with
  | .ok (_, .directory) => true
  | _ => false

/-- Whether a path leads to anything. -/
def doesExist (d : Disk) (p : Path) : Bool :=
  (d.resolve p).isOk

/-! ## Changing entries -/

/-- Makes a directory. -/
def makeDirectory (d : Disk) (p : Path) : Except DiskError Disk :=
  match d.place p with
  | .error e => .error e
  | .ok x =>
    match x.last with
    | .name _ =>
      match d.enter x.directory x.last with
      | .error e => .error e
      | .ok l =>
        if (d.entry? l).isSome then .error .alreadyThere else .ok (d.put l .directory)
    | _ => .error .alreadyThere

/-- Makes the first of these directories, each of which lies in the next, and
before it those of the others that are missing. What has been made stays, also
when a further one cannot be made. -/
def makeDirectories (d : Disk) : List Path → Except DiskError Unit × Disk
  | [] => (.ok (), d)
  | p :: above =>
    if p.isEmpty then (.ok (), d)
    else
      match d.makeDirectory p with
      | .ok made => (.ok (), made)
      | .error .noEntry =>
        match d.makeDirectories above with
        | (.error e, made) => (.error e, made)
        | (.ok (), made) =>
          match made.makeDirectory p with
          | .ok done => (.ok (), done)
          | .error e => (if made.isDirectory p then .ok () else .error e, made)
      | .error e => (if d.isDirectory p then .ok () else .error e, d)

/-- A path and those above it, at most `fuel` of them. -/
def lineage : Nat → Path → List Path
  | 0, _ => []
  | fuel + 1, p =>
    p :: match Path.parent? p with
      | some parent => lineage fuel parent
      | none => []

/-- Opens a file for writing, which creates or empties it. -/
def openFile (d : Disk) (p : Path) : Except DiskError Disk :=
  match d.place p with
  | .error e => .error e
  | .ok x =>
    match x.last, x.slash with
    | .name _, false =>
      match d.enter x.directory x.last with
      | .error e => .error e
      | .ok l =>
        match d.entry? l with
        | some .directory => .error .isDirectory
        | _ => .ok (d.put l (.file []))
    | _, _ => .error .isDirectory

/-- Creates or empties a file, making the directories that it lies in. -/
def createFile (d : Disk) (p : Path) : Except DiskError Unit × Disk :=
  let parents := match Path.parent? p with
    | some parent => lineage (parent.length + 1) parent
    | none => []
  match d.makeDirectories parents with
  | (.error e, made) => (.error e, made)
  | (.ok (), made) =>
    match made.openFile p with
    | .error e => (.error e, made)
    | .ok opened => (.ok (), opened)

/-- Puts bytes at the end of a file. -/
def appendFile (d : Disk) (p : Path) (bytes : Bytes) : Disk :=
  match d.resolve p with
  | .ok (l, .file data) => d.put l (.file (data ++ bytes))
  | _ => d

/-- Moves the entry at one location to another, which may be in use. -/
def replace (d : Disk) (source target : Location) : Except DiskError Disk :=
  if source = target then .ok d
  else
    match d.entry? source, d.entry? target with
    | some (.file _), some .directory => .error .isDirectory
    | some (.file data), _ => .ok ((d.erase source).put target (.file data))
    | _, some (.file _) => .error .notDirectory
    | _, some .directory =>
      if d.hasChildren target then .error .notEmpty
      else .ok (d.moveTree source target)
    | _, none => .ok (d.moveTree source target)

/-- Renames an entry. -/
def renameEntry (d : Disk) (p q : Path) : Except DiskError Disk := do
  if p.contains '\x00' || q.contains '\x00' then .error .nulInPath
  let x ← d.place p
  let y ← d.place q
  match x.last, y.last with
  | .name _, .name _ =>
    let source ← d.enter x.directory x.last
    match d.entry? source with
    | none => .error .noEntry
    | some entry =>
      let target ← d.enter y.directory y.last
      if entry ≠ .directory ∧ (x.slash ∨ y.slash) then .error .notDirectory
      else if source ≠ target ∧ source.isPrefixOf target then .error .invalid
      else if source ≠ target ∧ target.isPrefixOf source then .error .notEmpty
      else d.replace source target
  | _, _ => .error .busy

/-- Removes a file. -/
def removeFile (d : Disk) (p : Path) : Except DiskError Disk :=
  match d.place p with
  | .error e => .error e
  | .ok x =>
    match x.last with
    | .name _ =>
      match d.enter x.directory x.last with
      | .error e => .error e
      | .ok l =>
        match d.entry? l with
        | none => .error .noEntry
        | some .directory => .error .isDirectory
        | some (.file _) =>
          if x.slash then .error .notDirectory else .ok (d.erase l)
    | _ => .error .isDirectory

/-! ## The file system -/

/-- The answer to a change, and the disk after it. -/
def answer (d : Disk) : Except DiskError Disk → Except IoError Unit × Disk
  | .ok changed => (.ok (), changed)
  | .error e => (.error e.toIoError, d)

/-- Renames an entry, unless that would replace another without leave. -/
def rename (d : Disk) (p q : Path) (overwrite : Bool) :
    Except IoError Unit × Disk :=
  if !overwrite && d.doesExist q then
    (.error (.message .alreadyExists (q ++ " already exists".toList)), d)
  else d.answer (d.renameEntry p q)

/-- Removes a file, if there is one. -/
def remove (d : Disk) (p : Path) : Except IoError Unit × Disk :=
  match d.removeFile p with
  | .error .noEntry => (.ok (), d)
  | result => d.answer result

instance : FileStore Disk where
  isDirectory := isDirectory
  create d p :=
    let (result, made) := d.createFile p
    ((result.mapError DiskError.toIoError).map fun _ => {}, made)
  append := appendFile
  rename := rename
  remove := remove

end Disk

end HttpExchange
