import HttpExchange.Text.Basic

/-! Paths as text. A path is absolute if it begins with `/`. Its names lie
between slashes; empty pieces and `.` count for nothing, except that a relative
path may begin with `.`. -/

namespace HttpExchange

/-- The text of a path, as it was given. -/
abbrev Path := Text

namespace Path

/-- What a path starts from: the root, the directory `.`, or neither. -/
inductive Anchor where
  | root
  | here
  | none
  deriving DecidableEq, Repr

/-- A path cut at its slashes: what it starts from and the pieces after that. -/
structure Parts where
  anchor : Anchor
  pieces : List Text
  deriving DecidableEq, Repr

/-- A piece that counts for nothing. -/
def isNoise (piece : Text) : Bool :=
  piece = [] || piece = ['.']

/-- Pieces without those at the end that count for nothing. -/
def dropNoise (pieces : List Text) : List Text :=
  (pieces.reverse.dropWhile isNoise).reverse

/-- The parts of a path up to its last name. -/
def parts (p : Path) : Parts :=
  match p, Text.split '/' p with
  | '/' :: _, _ :: rest => ⟨.root, dropNoise rest⟩
  | _, ['.'] :: rest => ⟨.here, dropNoise rest⟩
  | _, pieces => ⟨.none, dropNoise pieces⟩

/-- The path with these parts. -/
def ofParts (x : Parts) : Path :=
  match x.anchor, x.pieces with
  | .root, pieces => '/' :: Text.join '/' pieces
  | .here, [] => ['.']
  | .here, pieces => '.' :: '/' :: Text.join '/' pieces
  | .none, pieces => Text.join '/' pieces

/-- What a path starts from and the names that it goes through. Paths with the
same components are spellings of one path. -/
def components (p : Path) : Parts :=
  let x := parts p
  { x with pieces := x.pieces.filter fun piece => !isNoise piece }

/-- The last name of a path; `none` for a path that has no names or ends in
`..`. -/
def fileName? (p : Path) : Option Text :=
  match (parts p).pieces.getLast? with
  | some name => if name = ['.', '.'] then none else some name
  | none => none

/-- The path without its last name; `none` for the root and the empty path. -/
def parent? (p : Path) : Option Path :=
  let x := parts p
  match x.pieces, x.anchor with
  | [], .here => some []
  | [], _ => none
  | pieces, anchor => some (ofParts ⟨anchor, dropNoise pieces.dropLast⟩)

/-- A path inside another, which an absolute path replaces. -/
def join (base path : Path) : Path :=
  match path with
  | '/' :: _ => path
  | _ =>
    if base.isEmpty || base.getLast? = some '/' then base ++ path
    else base ++ '/' :: path

/-- The path with another last name. -/
def withFileName (p : Path) (name : Text) : Path :=
  if (fileName? p).isSome then join ((parent? p).getD []) name else join p name

end Path

end HttpExchange
