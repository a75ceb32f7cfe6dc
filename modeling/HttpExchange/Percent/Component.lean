import HttpExchange.Charset.Basic
import HttpExchange.Percent.Decode
import HttpExchange.Percent.LiteralSet
import HttpExchange.Text.Span

/-! Writing one component, a name or a value. Data is written whole. Raw text
may already hold escapes: it is cut at its `%` signs, an escape stays as it
is, a stray `%` is escaped, and each run of text in between is written in the
charset on its own. The cutting notes spans of the text; what the spans take is
written piece by piece. -/

namespace HttpExchange.Percent

/-- Data in a charset, every byte outside the set escaped. -/
def writeData (set : LiteralSet) (cs : Charset) (t : Text) : Text :=
  writeBytes set (cs.encode t)

/-- A piece of raw text: a run without `%`, an escape, or a stray `%`. -/
inductive Piece where
  | run (span : Span)
  | escape (span : Span)
  | stray (span : Span)
  deriving DecidableEq, Repr

namespace Piece

/-- Where the piece lies. -/
def span : Piece → Span
  | run s => s
  | escape s => s
  | stray s => s

/-- The written form of a piece of `t`. -/
def write (set : LiteralSet) (cs : Charset) (t : Text) : Piece → Text
  | run s => writeData set cs (t.slice s)
  | escape s => t.slice s
  | stray _ => ['%', '2', '5']

end Piece

/-- The pieces of a text whose first character lies at offset `at`, where the
run under way began at offset `start`. -/
def piecesFrom (start offset : Nat) : Text → List Piece
  | [] => [.run ⟨start, offset⟩]
  | c :: rest =>
    if c = '%' then
      match rest with
      | a :: b :: tail =>
        if Hex.isDigit a && Hex.isDigit b then
          .run ⟨start, offset⟩ :: .escape ⟨offset, offset + 3⟩ ::
            piecesFrom (offset + 3) (offset + 3) tail
        else
          .run ⟨start, offset⟩ :: .stray ⟨offset, offset + 1⟩ ::
            piecesFrom (offset + 1) (offset + 1) (a :: b :: tail)
      | other =>
        .run ⟨start, offset⟩ :: .stray ⟨offset, offset + 1⟩ ::
          piecesFrom (offset + 1) (offset + 1) other
    else piecesFrom start (offset + Utf8.size c) rest

/-- The pieces of a text, from its start to its end. -/
def pieces (t : Text) : List Piece :=
  piecesFrom 0 0 t

/-- Raw text in a charset, its escapes kept. -/
def writeRaw (set : LiteralSet) (cs : Charset) (t : Text) : Text :=
  (pieces t).flatMap (Piece.write set cs t)

end HttpExchange.Percent
