import HttpExchange.Body.Error
import HttpExchange.Body.Sink

/-! The transfer of a body into a sink. It reads into a buffer, never more than
is left of a declared length, writes what it has read, and tells its progress.
It stops at the declared length or at the end of the stream and flushes the
sink. A stream that ends early is refused, or taken as it is if that is allowed;
an interrupted read is tried again; every other error is a failure. -/

namespace HttpExchange

/-- What to do about a body that ends early. -/
inductive EarlyEnd where
  | refuse
  | accept
  deriving DecidableEq, Repr

/-- What a transfer that did not fail has received, with the number of bytes
written. -/
inductive Received where
  /-- The whole body. -/
  | complete (bytes : Nat)
  /-- A body that ended early, which was allowed. -/
  | cutShort (bytes : Nat)
  deriving DecidableEq, Repr

namespace Received

/-- The number of bytes written. -/
def bytes : Received → Nat
  | complete n => n
  | cutShort n => n

/-- Whether the body is whole. -/
def isComplete : Received → Bool
  | complete _ => true
  | cutShort _ => false

end Received

/-- How a body is transferred: its declared length if there is one, what to do
if it ends early, and the size of the buffer that was asked for. -/
structure Transfer where
  total : Option Nat
  earlyEnd : EarlyEnd := .refuse
  bufferSize : Nat := 8192
  deriving DecidableEq, Repr

/-- What a transfer did: its result, what happened, and what is left of the
source. -/
structure TransferRun where
  result : Except BodyError Received
  events : Transcript
  source : Source

/-- A run with something that happened before it. -/
def TransferRun.after (events : Transcript) (run : TransferRun) : TransferRun :=
  { run with events := events ++ run.events }

namespace TransferRun

@[simp] theorem result_after (events : Transcript) (run : TransferRun) :
    (run.after events).result = run.result := rfl

@[simp] theorem events_after (events : Transcript) (run : TransferRun) :
    (run.after events).events = events ++ run.events := rfl

@[simp] theorem source_after (events : Transcript) (run : TransferRun) :
    (run.after events).source = run.source := rfl

end TransferRun

namespace Transfer

/-- The size of the buffer, which holds at least one byte. -/
def capacity (t : Transfer) : Nat :=
  max 1 t.bufferSize

/-- How many bytes to ask for when `count` have been written; `none` when the
declared length has been reached. -/
def want? (t : Transfer) (count : Nat) : Option Nat :=
  match t.total with
  | some total =>
    if total ≤ count then none else some (min (total - count) t.capacity)
  | none => some t.capacity

/-- The error of a stream that ends before the declared length. -/
def missingRest (count total : Nat) : IoError :=
  .message .unexpectedEof
    ("body ended after ".toList ++ Text.ofNat count ++ " of ".toList
      ++ Text.ofNat total ++ " bytes".toList)

/-- The end of a complete transfer: a flush, and word that it is finished. -/
def finish (count : Nat) (sink : Sink) (source : Source) : TransferRun :=
  match sink.flush with
  | .ok () =>
    ⟨.ok (.complete count), [.flushed (.ok ()), .notified .finished], source⟩
  | .error e => ⟨.error (.io e), [.flushed (.error e)], source⟩

/-- The end of a transfer whose body ended early. -/
def endEarly (t : Transfer) (count : Nat) (cause : IoError) (sink : Sink)
    (source : Source) : TransferRun :=
  match t.earlyEnd with
  | .refuse => ⟨.error (.endedEarly count cause), [], source⟩
  | .accept =>
    match sink.flush with
    | .ok () => ⟨.ok (.cutShort count), [.flushed (.ok ())], source⟩
    | .error e => ⟨.error (.io e), [.flushed (.error e)], source⟩

/-- The rest of a transfer when `count` bytes have been written. -/
def runFrom (t : Transfer) (count : Nat) (sink : Sink) (source : Source) :
    TransferRun :=
  match t.want? count with
  | none => finish count sink source
  | some want =>
    match h : source.read want with
    | (.ok [], rest) =>
      (match t.total with
        | some total => t.endEarly count (missingRest count total) sink rest
        | none => finish count sink rest).after [.read want (.ok [])]
    | (.ok (b :: bs), rest) =>
      match Sink.writeAll sink.writes (b :: bs) with
      | (events, .error e) =>
        ⟨.error (.io e), .read want (.ok (b :: bs)) :: events, rest⟩
      | (events, .ok writes) =>
        have : rest.size < source.size := Source.size_of_read_cons h
        let reached := count + (b :: bs).length
        (t.runFrom reached { sink with writes := writes } rest).after
          (.read want (.ok (b :: bs)) :: events ++
            [.notified (.progressed reached t.total)])
    | (.error e, rest) =>
      if e.kind = .interrupted then
        have : rest.size < source.size := Source.size_of_read_error h
        (t.runFrom count sink rest).after [.read want (.error e)]
      else if e.saysEarlyEnd then
        (t.endEarly count e sink rest).after [.read want (.error e)]
      else ⟨.error (.io e), [.read want (.error e)], rest⟩
termination_by source.size

/-- The transfer of a body into a sink that stays open. -/
def run (t : Transfer) (source : Source) (sink : Sink) : TransferRun :=
  (t.runFrom 0 sink source).after [.notified .started]

/-- The transfer of a body into a sink that is closed afterwards. -/
def runAndClose (t : Transfer) (source : Source) (sink : Sink) : TransferRun :=
  let run := t.run source sink
  { run with events := run.events ++ [.closed] }

end Transfer

end HttpExchange
