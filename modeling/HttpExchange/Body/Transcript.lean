import HttpExchange.Body.Source

/-! The record of a transfer: every read, write, flush and notification in the
order in which they happen. -/

namespace HttpExchange

/-- What an observer of a transfer is told. -/
inductive Notification where
  | started
  /-- `count` bytes of `total`, if that is known, have been written. -/
  | progressed (count : Nat) (total : Option Nat)
  | finished
  deriving DecidableEq, Repr

/-- One thing that happens in a transfer. -/
inductive TransferEvent where
  /-- A read asked for at most `want` bytes and got some, or an error. -/
  | read (want : Nat) (result : Except IoError Bytes)
  /-- A write offered bytes, and the sink accepted some of them, or failed. -/
  | wrote (offered : Bytes) (result : Except IoError Bytes)
  | flushed (result : Except IoError Unit)
  | notified (notification : Notification)
  /-- The sink was closed. -/
  | closed

namespace TransferEvent

/-- The bytes that the sink accepted in an event. -/
def accepted : TransferEvent → Bytes
  | wrote _ (.ok bytes) => bytes
  | _ => []

/-- The bytes that the source supplied in an event. -/
def supplied : TransferEvent → Bytes
  | read _ (.ok bytes) => bytes
  | _ => []

/-- The notification that an event is. -/
def notification? : TransferEvent → Option Notification
  | notified n => some n
  | _ => none

end TransferEvent

/-- The record of a transfer, or of a part of one. -/
abbrev Transcript := List TransferEvent

namespace Transcript

/-- All the bytes that the sink accepted. -/
def accepted (t : Transcript) : Bytes :=
  t.flatMap TransferEvent.accepted

/-- All the bytes that the source supplied. -/
def supplied (t : Transcript) : Bytes :=
  t.flatMap TransferEvent.supplied

/-- The notifications, in order. -/
def notifications (t : Transcript) : List Notification :=
  t.filterMap TransferEvent.notification?

@[simp] theorem accepted_nil : accepted [] = [] := rfl

@[simp] theorem accepted_cons (event : TransferEvent) (rest : Transcript) :
    accepted (event :: rest) = event.accepted ++ accepted rest := rfl

@[simp] theorem supplied_cons (event : TransferEvent) (rest : Transcript) :
    supplied (event :: rest) = event.supplied ++ supplied rest := rfl

@[simp] theorem accepted_append (t u : Transcript) :
    accepted (t ++ u) = accepted t ++ accepted u := by
  simp [accepted]

@[simp] theorem supplied_append (t u : Transcript) :
    supplied (t ++ u) = supplied t ++ supplied u := by
  simp [supplied]

@[simp] theorem notifications_append (t u : Transcript) :
    notifications (t ++ u) = notifications t ++ notifications u := by
  simp [notifications]

end Transcript

/-- Which notifications an observer hears: all of them, those of progress, or
none. -/
inductive Observer where
  | everything
  | progressOnly
  | nothing
  deriving DecidableEq, Repr

/-- Whether the observer hears a notification. -/
def Observer.hears : Observer → Notification → Bool
  | everything, _ => true
  | progressOnly, .progressed _ _ => true
  | _, _ => false

end HttpExchange
