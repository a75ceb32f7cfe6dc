import HttpExchange.Proofs.Query.Parameters
import HttpExchange.Query.Typed

/-! Forms read back. What a form writes of a name or value are literal characters,
plus signs and escapes, all of which a query may hold, so each pair becomes one
canonical token; a pair without name and value is still an `=` and not lost. A plus
sign stands for a space and is itself escaped, so a reader that takes plus signs for
spaces before it replaces escapes finds the octets that were written, be it strict or
lenient. -/

namespace HttpExchange

namespace Form

open QueryReader (tokenTexts)

/-! ## Names and values -/

theorem isPlain_literals : literals.IsPlain where
  ascii := LiteralSet.isAscii_of_marks rfl
  percent := rfl
  plus := rfl

section Written

variable {set : LiteralSet} (hmarks : literals.marks ⊆ set.marks)
  (hplus : set.contains '+' = true)

include hmarks hplus

theorem written_writeByte (b : UInt8) : Percent.Written set (writeByte b) := by
  rw [writeByte]
  split
  · exact .literal hplus .nil
  · exact (Percent.written_writeByte literals b).mono
      fun _ => LiteralSet.contains_mono hmarks

/-- A name or value of a form is written out. -/
theorem written_writeText (t : Text) : Percent.Written set (writeText t) :=
  Percent.written_flatMap (written_writeByte hmarks hplus) (Utf8.encode t)

end Written

theorem written_name (t : Text) : Percent.Written .rawName (writeText t) :=
  written_writeText (by decide) rfl t

theorem written_value (t : Text) : Percent.Written .rawValue (writeText t) :=
  written_writeText (by decide) rfl t

/-- An octet reads back from what is written of it, if plus signs are taken for
spaces. -/
theorem decode_map_writeByte (b : UInt8) (t : Text) :
    Percent.decode ((writeByte b).map (Percent.readPlus true) ++ t) =
      b :: Percent.decode t := by
  rw [writeByte]
  split
  · next hspace =>
    subst hspace
    exact Percent.decode_char (by decide)
  · exact Percent.decode_map_writeByte isPlain_literals b t

theorem decode_map_writeText (t : Text) :
    Percent.decode ((writeText t).map (Percent.readPlus true)) = Utf8.encode t :=
  Percent.decode_map_flatMap decode_map_writeByte (Utf8.encode t)

/-! ## Pairs -/

theorem canonicalToken_writePair (pair : Text × Text) :
    Query.CanonicalToken (writePair pair) :=
  ⟨_, _, written_name pair.1, written_value pair.2, rfl⟩

/-- A form is a canonical query. -/
theorem canonical_writePairs (pairs : List (Text × Text)) :
    Query.Canonical (writePairs pairs) :=
  Query.canonical_join_map canonicalToken_writePair pairs

/-- The tokens of a form are its pairs, written. -/
theorem tokenTexts_writePairs (pairs : List (Text × Text)) :
    tokenTexts (writePairs pairs) = pairs.map writePair :=
  Query.tokenTexts_join_map canonicalToken_writePair pairs

section Reader

variable {r : QueryReader} (hcs : r.charset = .utf8) (hplus : r.plusIsSpace = true)

include hcs hplus

theorem readText_writeText (t : Text) : r.readText (writeText t) = t := by
  rw [QueryReader.readText_eq, hplus, decode_map_writeText, hcs]
  exact Utf8.decode_encode t

theorem pairOf_writePair (pair : Text × Text) : r.pairOf (writePair pair) = pair := by
  rw [QueryReader.pairOf, writePair,
    Query.tokenParts_of_written (written_name pair.1), readText_writeText hcs hplus,
    readText_writeText hcs hplus]

theorem map_pairOf_writePairs (pairs : List (Text × Text)) :
    (tokenTexts (writePairs pairs)).map r.pairOf = pairs := by
  rw [tokenTexts_writePairs, List.map_map]
  exact (List.map_congr_left fun pair _ => pairOf_writePair hcs hplus pair).trans
    (List.map_id pairs)

/-- Readers of queries find the pairs of a form. -/
theorem pairs_writePairs (hskip : r.skipPath = false) (pairs : List (Text × Text)) :
    r.pairs (writePairs pairs) = .ok pairs := by
  rw [Query.pairs_of_canonical_tokens hskip
    (canonical_writePairs pairs).canonicalToken_of_mem, map_pairOf_writePairs hcs hplus]

end Reader

/-! ## Values -/

namespace Value

/-- A pair as a value: a tuple of two texts. -/
def ofPair (pair : Text × Text) : Value :=
  .tuple [.text pair.1, .text pair.2]

theorem mapM_pair_ofPair (pairs : List (Text × Text)) :
    ((pairs.map ofPair).mapM pair).map (List.filterMap id) = .ok pairs := by
  have hpair : ∀ p ∈ pairs, (pair ∘ ofPair) p = .ok (some p) := fun _ _ => rfl
  rw [List.mapM_map, QueryReader.mapM_eq_ok hpair]
  exact congrArg Except.ok (by simp)

theorem pairs_sequence (pairs : List (Text × Text)) :
    (sequence (pairs.map ofPair)).pairs = .ok pairs :=
  mapM_pair_ofPair pairs

theorem pairs_tuple (pairs : List (Text × Text)) :
    (tuple (pairs.map ofPair)).pairs = .ok pairs :=
  mapM_pair_ofPair pairs

end Value

end Form

namespace Query

/-- Forms read back as queries. Every list of pairs can be written as a form, be it
a sequence or a tuple of them, and also with empty names, empty values and names that
repeat; and every reader of UTF-8 to whom `+` is a space finds exactly these pairs
there, strict or lenient. -/
theorem pairs_ofValue (pairs : List (Text × Text)) (lenient : Bool) :
    ofValue (.sequence (pairs.map .ofPair)) = .ok (Form.writePairs pairs) ∧
    ofValue (.tuple (pairs.map .ofPair)) = .ok (Form.writePairs pairs) ∧
    ({ charset := .utf8, lenient, plusIsSpace := true } : QueryReader).pairs
      (Form.writePairs pairs) = .ok pairs := by
  refine ⟨?_, ?_, Form.pairs_writePairs rfl rfl rfl pairs⟩
  · rw [ofValue, Form.encode, Form.Value.pairs_sequence]
    rfl
  · rw [ofValue, Form.encode, Form.Value.pairs_tuple]
    rfl

/-- Plus signs, spaces and what looks like an escape; a pair without name and
value. -/
example : Form.writePairs [("a +".toList, "%2B=三".toList), ([], [])] =
    "a+%2B=%252B%3D%E4%B8%89&=".toList := by decide +kernel

end Query

end HttpExchange
