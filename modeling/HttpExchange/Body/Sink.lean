import HttpExchange.Body.Transcript

/-! Sinks of bytes. What a sink does is a script of writes, one entry to each
call; after the script it accepts everything. A write of several bytes may
accept only some of them, so `writeAll` offers the rest again until nothing is
left, goes on after an interruption, and takes a sink that accepts no byte for
a failure. -/

namespace HttpExchange

/-- What a sink does with one write. -/
inductive WriteStep where
  /-- It accepts at most `limit` bytes. -/
  | accept (limit : Nat)
  | acceptAll
  | fail (error : IoError)
  deriving DecidableEq, Repr

/-- What a sink is going to do: its writes, and the error that every flush
fails with, if flushes fail. -/
structure Sink where
  writes : List WriteStep := []
  flushError : Option IoError := none
  deriving DecidableEq, Repr

/-- The bytes that a write accepts of those offered. -/
def WriteStep.result (offered : Bytes) : WriteStep → Except IoError Bytes
  | accept limit => .ok (offered.take limit)
  | acceptAll => .ok offered
  | fail e => .error e

/-- Whether writing goes on after the write: it accepts at least one byte, or
is interrupted. -/
def WriteStep.goesOn : WriteStep → Bool
  | accept limit => limit ≠ 0
  | acceptAll => true
  | fail e => e.kind = .interrupted

/-- The error of a sink that accepts nothing. -/
def IoError.writeZero : IoError :=
  .message .writeZero "failed to write whole buffer".toList

namespace Sink

/-- The flush of a sink. -/
def flush (s : Sink) : Except IoError Unit :=
  match s.flushError with
  | some e => .error e
  | none => .ok ()

/-- Writes all bytes to a sink with these writes to come: what happens, and the
writes that are then to come, or the error that stops it. -/
def writeAll : List WriteStep → Bytes →
    Transcript × Except IoError (List WriteStep)
  | [], offered =>
    if offered.isEmpty then ([], .ok [])
    else ([.wrote offered (.ok offered)], .ok [])
  | step :: rest, offered =>
    if offered.isEmpty then ([], .ok (step :: rest))
    else
      let result := step.result offered
      let event := TransferEvent.wrote offered result
      match result with
      | .error e =>
        if e.kind = .interrupted then
          let (events, outcome) := writeAll rest offered
          (event :: events, outcome)
        else ([event], .error e)
      | .ok accepted =>
        if accepted.isEmpty then ([event], .error .writeZero)
        else
          let (events, outcome) := writeAll rest (offered.drop accepted.length)
          (event :: events, outcome)

end Sink

end HttpExchange
