import HttpExchange.Proofs.Percent.Meaning
import HttpExchange.Proofs.Query.Tokens
import HttpExchange.Query.Canonical

/-! Reading a query back. A lenient reader reads every text, and a strict one
reads whatever has been written out, since that holds no broken escape. A
normal form is made of canonical tokens, so a strict reader reads it, and finds
there what a lenient one finds in the raw query. -/

namespace HttpExchange

theorem LiteralSet.rawName_contains_percent : rawName.contains '%' = false :=
  rfl

theorem LiteralSet.rawValue_contains_percent : rawValue.contains '%' = false :=
  rfl

namespace QueryReader

/-! ## Components -/

/-- Plus signs are read before escapes are. -/
theorem readText_eq (r : QueryReader) (component : Text) :
    r.readText component = r.charset.decode
      (Percent.decode (component.map (Percent.readPlus r.plusIsSpace))) := by
  rw [readText]
  cases r.plusIsSpace with
  | false =>
    have hid : Percent.readPlus false = id := rfl
    rw [hid, List.map_id]
    rfl
  | true =>
    have hplus : Percent.readPlus true = fun c => if c = '+' then ' ' else c :=
      by
        funext c
        simp [Percent.readPlus]
    rw [hplus]
    rfl

/-- A lenient reader reads every component. -/
theorem readComponent_lenient {r : QueryReader} (h : r.lenient = true)
    (component : Text) :
    r.readComponent component = .ok (r.readText component) := by
  rw [readComponent]
  cases Percent.brokenEscape? component with
  | none => rfl
  | some rest => simp [h]

/-- Every reader reads a component without broken escapes. -/
theorem readComponent_of_brokenEscape? {r : QueryReader} {component : Text}
    (h : Percent.brokenEscape? component = none) :
    r.readComponent component = .ok (r.readText component) := by
  rw [readComponent, h]

/-- Raw text that has been written reads as the raw text does. -/
theorem readText_writeRaw {r : QueryReader} {set : LiteralSet}
    (hcs : r.charset = .utf8) (hset : set.IsAscii)
    (hplus : set.contains '+' = true) (t : Text) :
    r.readText (Percent.writeRaw set .utf8 t) = r.readText t := by
  rw [readText_eq, readText_eq, hcs, Percent.writeRaw_utf8 hset,
    Percent.decode_map_writeRawChars hplus]

/-! ## Tokens and pairs -/

theorem readToken_eq_ok {r : QueryReader} {token : Text}
    (hname : r.readComponent (tokenParts token).1 =
      .ok (r.readText (tokenParts token).1))
    (hvalue : r.readComponent (tokenParts token).2 =
      .ok (r.readText (tokenParts token).2)) :
    r.readToken token =
      .ok (r.readText (tokenParts token).1, r.readText (tokenParts token).2) := by
  simp only [readToken, hname, hvalue]
  rfl

/-- A reader that reads every token reads them all. -/
theorem mapM_eq_ok {α β ε : Type} {f : α → Except ε β} {g : α → β} {l : List α}
    (h : ∀ x ∈ l, f x = .ok (g x)) : l.mapM f = .ok (l.map g) := by
  induction l with
  | nil => rfl
  | cons x rest ih =>
    rw [List.mapM_cons, h x (by simp), ih fun y hy => h y (by simp [hy])]
    rfl

/-- The pair that a token holds for a reader that reads it. -/
def pairOf (r : QueryReader) (token : Text) : Text × Text :=
  (r.readText (tokenParts token).1, r.readText (tokenParts token).2)

/-- A lenient reader reads every query. -/
theorem pairs_lenient {r : QueryReader} (h : r.lenient = true) (raw : Text) :
    r.pairs raw = .ok ((tokenTexts (r.queryOf raw)).map r.pairOf) :=
  mapM_eq_ok fun _ _ => readToken_eq_ok (readComponent_lenient h _)
    (readComponent_lenient h _)

end QueryReader

namespace Query

open QueryReader (tokenParts tokenTexts)

/-! ## Canonical tokens -/

section CanonicalToken

variable {token : Text}

/-- No separator is left in a canonical token. -/
theorem CanonicalToken.amp_not_mem (h : CanonicalToken token) : '&' ∉ token := by
  obtain ⟨name, value, hname, hvalue, rfl⟩ := h
  rw [List.mem_append, List.mem_cons]
  rintro (h | h | h)
  · exact hname.not_mem rfl (by decide) rfl h
  · cases h
  · exact hvalue.not_mem rfl (by decide) rfl h

theorem CanonicalToken.ne_nil (h : CanonicalToken token) : token ≠ [] := by
  obtain ⟨name, value, -, -, rfl⟩ := h
  simp

/-- The name of a canonical token ends where its first `=` is. -/
theorem tokenParts_of_written {name : Text} (h : Percent.Written .rawName name)
    (value : Text) : tokenParts (name ++ '=' :: value) = (name, value) :=
  tokenParts_append (h.not_mem rfl (by decide) rfl)

/-- Every reader reads a canonical token. -/
theorem CanonicalToken.readToken_eq_ok (h : CanonicalToken token)
    (r : QueryReader) : r.readToken token = .ok (r.pairOf token) := by
  obtain ⟨name, value, hname, hvalue, rfl⟩ := h
  apply QueryReader.readToken_eq_ok
  · rw [tokenParts_of_written hname]
    exact QueryReader.readComponent_of_brokenEscape?
      (hname.brokenEscape?_eq_none LiteralSet.rawName_contains_percent)
  · rw [tokenParts_of_written hname]
    exact QueryReader.readComponent_of_brokenEscape?
      (hvalue.brokenEscape?_eq_none LiteralSet.rawValue_contains_percent)

/-- Every reader reads a query of canonical tokens. -/
theorem pairs_of_canonical_tokens {r : QueryReader} (hskip : r.skipPath = false)
    {query : Text} (h : ∀ token ∈ tokenTexts query, CanonicalToken token) :
    r.pairs query = .ok ((tokenTexts query).map r.pairOf) := by
  rw [QueryReader.pairs, QueryReader.queryOf, hskip, if_neg (by simp)]
  exact QueryReader.mapM_eq_ok fun token hmem => (h token hmem).readToken_eq_ok r

/-- Canonical tokens can be joined: none of them is lost or cut in two. -/
theorem joinable_of_canonical {tokens : List Text}
    (h : ∀ token ∈ tokens, CanonicalToken token) :
    ∀ token ∈ tokens, '&' ∉ token ∧ token ≠ [] := fun token hmem =>
  ⟨(h token hmem).amp_not_mem, (h token hmem).ne_nil⟩

/-- Canonical tokens that are joined are found again. -/
theorem tokenTexts_join_canonical {tokens : List Text}
    (h : ∀ token ∈ tokens, CanonicalToken token) :
    tokenTexts (Text.join '&' tokens) = tokens :=
  tokenTexts_join (joinable_of_canonical h)

/-- Every reader finds the pairs of canonical tokens that are joined. -/
theorem pairs_join_canonical {r : QueryReader} (hskip : r.skipPath = false)
    {tokens : List Text} (h : ∀ token ∈ tokens, CanonicalToken token) :
    r.pairs (Text.join '&' tokens) = .ok (tokens.map r.pairOf) := by
  have htexts := tokenTexts_join_canonical h
  rw [pairs_of_canonical_tokens hskip (htexts.symm ▸ h), htexts]

theorem Canonical.canonicalToken_of_mem {query : Text} (h : Canonical query) :
    ∀ token ∈ tokenTexts query, CanonicalToken token := by
  obtain ⟨tokens, htokens, rfl⟩ := h
  rwa [tokenTexts_join_canonical htokens]

end CanonicalToken

/-! ## Lists that are written -/

section Lists

variable {α : Type} {write : α → Text} (hwrite : ∀ x, CanonicalToken (write x))
  (l : List α)

include hwrite

theorem canonicalToken_of_mem_map : ∀ token ∈ l.map write, CanonicalToken token :=
  List.forall_mem_map.mpr fun x _ => hwrite x

/-- A list is written as a canonical query if its members are written as tokens. -/
theorem canonical_join_map : Canonical (Text.join '&' (l.map write)) :=
  ⟨_, canonicalToken_of_mem_map hwrite l, rfl⟩

theorem tokenTexts_join_map :
    tokenTexts (Text.join '&' (l.map write)) = l.map write :=
  tokenTexts_join_canonical (canonicalToken_of_mem_map hwrite l)

end Lists

/-! ## Normal forms -/

theorem canonicalToken_writeToken (cs : Charset) (token : Text) :
    CanonicalToken (writeToken cs token) :=
  ⟨_, _, Percent.written_writeRaw .rawName cs _,
    Percent.written_writeRaw .rawValue cs _, rfl⟩

theorem tokenParts_writeToken (cs : Charset) (token : Text) :
    tokenParts (writeToken cs token) =
      (Percent.writeRaw .rawName cs (tokenParts token).1,
        Percent.writeRaw .rawValue cs (tokenParts token).2) :=
  tokenParts_of_written (Percent.written_writeRaw .rawName cs _) _

/-- A normal form is canonical in every charset. -/
theorem canonical_normalize (cs : Charset) (raw : Text) :
    Canonical (normalize cs raw) := by
  rw [normalize_eq_join]
  exact canonical_join_map (canonicalToken_writeToken cs) (tokenTexts raw)

/-- The tokens of a normal form are the tokens of the query, written out. -/
theorem tokenTexts_normalize (cs : Charset) (raw : Text) :
    tokenTexts (normalize cs raw) = (tokenTexts raw).map (writeToken cs) := by
  rw [normalize_eq_join]
  exact tokenTexts_join_map (canonicalToken_writeToken cs) (tokenTexts raw)

/-- In UTF-8 a token that is written out holds the pair that it held before. -/
theorem pairOf_writeToken {r : QueryReader} (hcs : r.charset = .utf8)
    (token : Text) : r.pairOf (writeToken .utf8 token) = r.pairOf token := by
  rw [QueryReader.pairOf, tokenParts_writeToken,
    QueryReader.readText_writeRaw hcs LiteralSet.isAscii_rawName rfl,
    QueryReader.readText_writeRaw hcs LiteralSet.isAscii_rawValue rfl]
  rfl

/-- Every reader of UTF-8 reads a normal form, and finds there the pairs that a
lenient reader finds in the query. -/
theorem pairs_normalize_eq {r : QueryReader} (hcs : r.charset = .utf8)
    (hskip : r.skipPath = false) (raw : Text) :
    r.pairs (normalize .utf8 raw) = .ok ((tokenTexts raw).map r.pairOf) := by
  rw [normalize_eq_join, pairs_join_canonical hskip
    (canonicalToken_of_mem_map (canonicalToken_writeToken .utf8) (tokenTexts raw)),
    List.map_map]
  exact congrArg Except.ok
    (List.map_congr_left fun token _ => pairOf_writeToken hcs token)

/-- A normal form means what the raw query means: a strict reader reads it
without fail, and finds the pairs that a lenient reader finds in the raw
query. -/
theorem pairs_normalize (plusIsSpace : Bool) (raw : Text) :
    ∃ pairs,
      ({ charset := .utf8, lenient := false, plusIsSpace } : QueryReader).pairs
        (normalize .utf8 raw) = .ok pairs ∧
      ({ charset := .utf8, lenient := true, plusIsSpace } : QueryReader).pairs
        raw = .ok pairs := by
  refine ⟨_, pairs_normalize_eq rfl rfl raw, ?_⟩
  rw [QueryReader.pairs_lenient rfl]
  rfl

/-- Escapes beside broken ones, a plus sign after a `%`, an `=` in a value and
empty tokens. -/
example :
    ({ charset := .utf8, plusIsSpace := true } : QueryReader).pairs
        (normalize .utf8 "%%41=%4%41&&a=%+1=&=".toList) =
      .ok [("%A".toList, "%4A".toList), ("a".toList, "% 1=".toList), ([], [])]
    := by cbv

end Query

end HttpExchange
