import HttpExchange.Proofs.Percent.Data
import HttpExchange.Proofs.Query.Reading
import HttpExchange.Query.Parameter

/-! Parameters read back. Each parameter with a name becomes one canonical token
of the query, whatever the charset, so a reader finds as many tokens as there
are such parameters. What it reads there are the bytes of the name and of the
value; where the charset gives these back as text, it reads the parameters. -/

namespace HttpExchange

/-- Data reads as what the charset of the reader makes of its bytes. -/
theorem QueryReader.readText_writeData (r : QueryReader) {set : LiteralSet}
    (hset : set.IsPlain) (cs : Charset) (t : Text) :
    r.readText (Percent.writeData set cs t) = r.charset.decode (cs.encode t) := by
  rw [readText_eq, Percent.writeData, Percent.decode_map_writeBytes hset]

namespace Parameter

/-- The pair that the parameter is read as. An absent value reads as the empty
text. -/
def pair (p : Parameter) : Text × Text :=
  (p.name, p.value.getD [])

/-- The charset gives back the name of the parameter, and its value if it has
one. -/
structure RestoredBy (p : Parameter) (cs : Charset) : Prop where
  name : cs.Restores p.name
  value : ∀ value, p.value = some value → cs.Restores value

theorem restoredBy_utf8 (p : Parameter) : p.RestoredBy .utf8 where
  name := Charset.utf8_restores p.name
  value value _ := Charset.utf8_restores value

theorem RestoredBy.getD_value {p : Parameter} {cs : Charset}
    (h : p.RestoredBy cs) : cs.Restores (p.value.getD []) := by
  cases hv : p.value with
  | none =>
    show cs.decode (cs.encode []) = []
    rw [cs.encode_nil, cs.decode_nil]
  | some value => exact h.value value hv

variable (cs : Charset) (p : Parameter)

/-- An absent value is written as an empty one. -/
theorem write_eq : p.write cs =
    Percent.writeData .dataName cs p.name ++ '=' ::
      Percent.writeData .dataValue cs (p.value.getD []) := by
  unfold write
  cases p.value with
  | none =>
    have hnil : Percent.writeData .dataValue cs [] = [] := by
      rw [Percent.writeData, cs.encode_nil]
      rfl
    rw [Option.getD_none, hnil]
  | some value => rfl

theorem canonicalToken_write : Query.CanonicalToken (p.write cs) := by
  rw [write_eq]
  exact ⟨_, _, Percent.written_dataName cs _, Percent.written_dataValue cs _, rfl⟩

/-- The pair that a parameter holds for a reader of its charset. -/
theorem pairOf_write {r : QueryReader} {p : Parameter}
    (h : p.RestoredBy r.charset) : r.pairOf (p.write r.charset) = p.pair := by
  rw [QueryReader.pairOf, write_eq,
    Query.tokenParts_of_written (Percent.written_dataName r.charset _),
    QueryReader.readText_writeData r LiteralSet.isPlain_dataName,
    QueryReader.readText_writeData r LiteralSet.isPlain_dataValue, h.name,
    h.getD_value]
  rfl

end Parameter

namespace Query

open QueryReader (tokenTexts)

/-- What the parameters with a name are read as, in order. -/
def pairsOf (params : List Parameter) : List (Text × Text) :=
  (params.filter fun p => !p.name.isEmpty).map Parameter.pair

theorem canonical_ofParameters (cs : Charset) (params : List Parameter) :
    Canonical (ofParameters cs params) :=
  canonical_join_map (Parameter.canonicalToken_write cs) _

/-- The tokens of a query made of parameters are those with a name, written. -/
theorem tokenTexts_ofParameters (cs : Charset) (params : List Parameter) :
    tokenTexts (ofParameters cs params) =
      (params.filter fun p => !p.name.isEmpty).map (Parameter.write cs) :=
  tokenTexts_join_map (Parameter.canonicalToken_write cs) _

/-- A reader of the charset finds the parameters that the charset gives back. -/
theorem map_pairOf_ofParameters {r : QueryReader} {params : List Parameter}
    (h : ∀ p ∈ params, p.RestoredBy r.charset) :
    (tokenTexts (ofParameters r.charset params)).map r.pairOf = pairsOf params := by
  rw [tokenTexts_ofParameters, List.map_map, pairsOf]
  refine List.map_congr_left fun p hp => ?_
  exact Parameter.pairOf_write (h p (List.mem_of_mem_filter hp))

theorem pairs_ofParameters_of_restored {params : List Parameter} {r : QueryReader}
    (hskip : r.skipPath = false) (h : ∀ p ∈ params, p.RestoredBy r.charset) :
    r.pairs (ofParameters r.charset params) = .ok (pairsOf params) := by
  rw [pairs_of_canonical_tokens hskip
    (canonical_ofParameters r.charset params).canonicalToken_of_mem,
    map_pairOf_ofParameters h]

/-- Parameters survive being written and read: whatever characters they hold,
and however broken escapes and plus signs are read, the pairs of the query are
the parameters with a name, in order, in every charset that gives them back.
UTF-8 always does. -/
theorem pairs_ofParameters (params : List Parameter) (lenient plusIsSpace : Bool) :
    (∀ cs : Charset, (∀ p ∈ params, p.RestoredBy cs) →
      ({ charset := cs, lenient, plusIsSpace } : QueryReader).pairs
        (ofParameters cs params) = .ok (pairsOf params)) ∧
    ({ charset := .utf8, lenient, plusIsSpace } : QueryReader).pairs
      (ofParameters .utf8 params) = .ok (pairsOf params) := by
  constructor
  · intro cs h
    exact pairs_ofParameters_of_restored
      (r := { charset := cs, lenient, plusIsSpace }) rfl h
  · exact pairs_ofParameters_of_restored
      (r := { charset := .utf8, lenient, plusIsSpace }) rfl
      fun p _ => p.restoredBy_utf8

/-- A script whose bytes are letters, marks and separators of ASCII, a name that
occurs twice, and one that is empty. -/
theorem pairs_ofParameters_iso2022jp :
    (∀ p ∈ [⟨"三=&".toList, some "%41+日 ".toList⟩, ⟨[], some ['x']⟩,
      .bare "三=&".toList], Parameter.RestoredBy p .iso2022jp) ∧
    ofParameters .iso2022jp [⟨"三=&".toList, some "%41+日 ".toList⟩,
        ⟨[], some ['x']⟩, .bare "三=&".toList] =
      ("%1B$B;0%1B(B%3D%26=%2541%2B%1B$BF%7C%1B(B%20&" ++
        "%1B$B;0%1B(B%3D%26=").toList ∧
    ({ charset := .iso2022jp, plusIsSpace := true } : QueryReader).pairs
        (ofParameters .iso2022jp [⟨"三=&".toList, some "%41+日 ".toList⟩,
          ⟨[], some ['x']⟩, .bare "三=&".toList]) =
      .ok [("三=&".toList, "%41+日 ".toList), ("三=&".toList, [])] := by
  have hname : Charset.iso2022jp.Restores "三=&".toList := by
    show Charset.iso2022jp.decode _ = _
    decide +kernel
  have hvalue : Charset.iso2022jp.Restores "%41+日 ".toList := by
    show Charset.iso2022jp.decode _ = _
    decide +kernel
  have h : ∀ p ∈ [⟨"三=&".toList, some "%41+日 ".toList⟩, ⟨[], some ['x']⟩,
      .bare "三=&".toList], Parameter.RestoredBy p .iso2022jp := by
    simp only [List.forall_mem_cons]
    refine ⟨⟨hname, ?_⟩, ⟨rfl, ?_⟩, ⟨hname, ?_⟩, by simp⟩
    · rintro _ ⟨⟩
      exact hvalue
    · rintro _ ⟨⟩
      rfl
    · rintro _ ⟨⟩
  exact ⟨h, by decide +kernel, (pairs_ofParameters _ false true).1 .iso2022jp h⟩

end Query

end HttpExchange
