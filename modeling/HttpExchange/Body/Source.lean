import HttpExchange.Io.Error

/-! Sources of bytes. What a source does is a script: pieces of bytes, of which a
read takes no more than it asks for, reads that fail, and reads that report the
end of the stream. After the script every read reports the end. -/

namespace HttpExchange

/-- One part of what a source does. -/
inductive SourceStep where
  /-- Bytes that arrive together. -/
  | piece (bytes : Bytes)
  /-- A read that fails. -/
  | fail (error : IoError)
  /-- A read that reports the end of the stream. -/
  | eof
  deriving DecidableEq, Repr

namespace SourceStep

/-- The bytes that a part supplies. -/
def bytes : SourceStep → Bytes
  | piece b => b
  | _ => []

/-- Whether reading goes on after the part: it is no end of the stream and no
failure but an interruption. -/
def goesOn : SourceStep → Bool
  | piece _ => true
  | fail e => e.kind = .interrupted
  | eof => false

end SourceStep

/-- What a source is going to do. -/
abbrev Source := List SourceStep

namespace Source

/-- All the bytes that a source has. -/
def bytes (s : Source) : Bytes :=
  s.flatMap SourceStep.bytes

/-- A read of at most `want` bytes: the bytes, none at the end of the stream, or
the error, and what is left of the source. Empty pieces are passed over. -/
def read (want : Nat) : Source → Except IoError Bytes × Source
  | [] => (.ok [], [])
  | .piece bytes :: rest =>
    if bytes.isEmpty then read want rest
    else (.ok (bytes.take want), .piece (bytes.drop want) :: rest)
  | .fail e :: rest => (.error e, rest)
  | .eof :: rest => (.ok [], rest)

/-- A bound on the reads that a source can still answer with bytes or an
error. -/
def size : Source → Nat
  | [] => 0
  | .piece bytes :: rest => bytes.length + 1 + size rest
  | _ :: rest => 1 + size rest

/-- A failing read leaves less of the source. -/
theorem size_of_read_error {want : Nat} {s s' : Source} {e : IoError}
    (h : s.read want = (.error e, s')) : s'.size < s.size := by
  induction s with
  | nil => simp [read] at h
  | cons step rest ih =>
    cases step with
    | piece bytes =>
      simp only [read] at h
      split at h
      · have := ih h
        simp only [size]
        omega
      · simp at h
    | fail e' =>
      simp only [read, Prod.mk.injEq] at h
      obtain ⟨-, rfl⟩ := h
      simp [size]
    | eof => simp [read] at h

/-- A read that yields bytes leaves less of the source. -/
theorem size_of_read_cons {want : Nat} {s s' : Source} {b : UInt8} {bs : Bytes}
    (h : s.read want = (.ok (b :: bs), s')) : s'.size < s.size := by
  induction s with
  | nil => simp [read] at h
  | cons step rest ih =>
    cases step with
    | piece bytes =>
      simp only [read] at h
      split at h
      · have := ih h
        simp only [size]
        omega
      · simp only [Prod.mk.injEq, Except.ok.injEq] at h
        obtain ⟨htake, rfl⟩ := h
        have hlen := congrArg List.length htake
        simp only [List.length_take, List.length_cons] at hlen
        simp only [size, List.length_drop]
        omega
    | fail e' => simp [read] at h
    | eof => simp [read] at h

end Source

end HttpExchange
