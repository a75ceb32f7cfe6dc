import HttpExchange.Proofs.Body.Delivery
import HttpExchange.Proofs.Body.Runs

/-! What the result of a transfer says about what happened. A transfer has an
outcome only after a flush that succeeded, with all the bytes that the outcome
counts before it; and it fails in two ways, with an error of its source or sink
or because the body ended early. Nothing is assumed of either side. -/

namespace HttpExchange

namespace Transcript

/-- After `count` bytes were accepted, a flush succeeded, and then nothing more
was accepted. -/
def FlushedAfter (events : Transcript) (count : Nat) : Prop :=
  ∃ before later, events = before ++ .flushed (.ok ()) :: later ∧
    accepted before = accepted events ∧ (accepted events).length = count

/-- What happens earlier adds to the count. -/
theorem FlushedAfter.append {events : Transcript} {count : Nat}
    (earlier : Transcript) (h : events.FlushedAfter count) :
    (earlier ++ events).FlushedAfter ((accepted earlier).length + count) := by
  obtain ⟨before, later, rfl, hbefore, hcount⟩ := h
  refine ⟨earlier ++ before, later, (List.append_assoc ..).symm, ?_, ?_⟩
  · rw [accepted_append, accepted_append, hbefore]
  · rw [accepted_append, List.length_append, hcount]

/-- Closing the sink changes nothing. -/
theorem FlushedAfter.closed {events : Transcript} {count : Nat}
    (h : events.FlushedAfter count) :
    FlushedAfter (events ++ [TransferEvent.closed]) count := by
  obtain ⟨before, later, rfl, hbefore, hcount⟩ := h
  have hsame (events : Transcript) :
      accepted (events ++ [TransferEvent.closed]) = accepted events := by
    rw [accepted_append]
    exact List.append_nil _
  refine ⟨before, later ++ [TransferEvent.closed], by simp, ?_, ?_⟩
  · rw [hsame, hbefore]
  · rw [hsame, hcount]

end Transcript

namespace Transfer

variable {t : Transfer} {count : Nat} {sink : Sink} {source : Source}
  {run : TransferRun} {received : Received}

/-! ## Outcomes -/

/-- What an outcome counts and when it may say that the body was cut short. -/
def Allows (t : Transfer) (count : Nat) (received : Received) : Prop :=
  received = .complete count ∨
    received = .cutShort count ∧ t.earlyEnd = .accept

theorem Ends.flushed (h : t.Ends count sink source run)
    (hok : run.result = .ok received) :
    run.events.FlushedAfter 0 ∧ t.Allows count received := by
  cases h with
  | complete hflush =>
    cases hok
    exact ⟨⟨[], _, rfl, rfl, rfl⟩, .inl rfl⟩
  | cutShort haccept hflush =>
    cases hok
    exact ⟨⟨[], _, rfl, rfl, rfl⟩, .inr ⟨rfl, haccept⟩⟩
  | refused hrefuse => cases hok
  | notFlushed hflush => cases hok

/-- A transfer that goes on with `count` bytes written has an outcome only
after it has written the rest of what the outcome counts and flushed it. -/
theorem Runs.flushed (h : t.Runs count sink source run)
    (hok : run.result = .ok received) :
    ∃ more, run.events.FlushedAfter more ∧ t.Allows (count + more) received := by
  induction h with
  | reached hwant =>
    exact ⟨0, (t.ends_finish ..).flushed hok⟩
  | ended hwant hread =>
    obtain ⟨hflushed, hallows⟩ := (t.ends_endOfStream ..).flushed hok
    exact ⟨0, hflushed.append [_], hallows⟩
  | refused hwant hread hne hwrite => cases hok
  | @copied count sink source want bytes rest events writes run hwant hread hne
      hwrite hrun ih =>
    -- The flush is in the rest of the run; what is written here adds to it.
    obtain ⟨more, hflushed, hallows⟩ := ih hok
    have haccepted := (Sink.writes_of_writeAll hwrite).accepted rfl
    refine ⟨bytes.length + more, ?_, ?_⟩
    · have h := hflushed.append (.read want (.ok bytes) :: events ++
        [.notified (.progressed (count + bytes.length) t.total)])
      simpa [TransferEvent.accepted, haccepted] using h
    · rw [← Nat.add_assoc]
      exact hallows
  | @interrupted count sink source want rest e run hwant hread hkind hrun ih =>
    obtain ⟨more, hflushed, hallows⟩ := ih hok
    refine ⟨more, ?_, hallows⟩
    have h := hflushed.append [.read want (.error e)]
    simpa [TransferEvent.accepted] using h
  | cutShort hwant hread hkind hearly =>
    obtain ⟨hflushed, hallows⟩ := (t.ends_endEarly ..).flushed hok
    exact ⟨0, hflushed.append [_], hallows⟩
  | failed hwant hread hkind hearly => cases hok

/-- The outcome of a transfer into a sink that is closed afterwards counts all
that the sink accepted, and all of it was flushed. -/
theorem runAndClose_flushed
    (hok : (t.runAndClose source sink).result = .ok received) :
    (t.runAndClose source sink).events.FlushedAfter received.bytes ∧
      t.Allows received.bytes received := by
  obtain ⟨more, hflushed, hallows⟩ := (runs_runFrom t 0 sink source).flushed hok
  rw [Nat.zero_add] at hallows
  obtain rfl : received.bytes = more := by
    rcases hallows with rfl | ⟨rfl, -⟩ <;> rfl
  have hstarted := (hflushed.append [.notified .started]).closed
  rw [show (Transcript.accepted [.notified .started]).length = 0 from rfl,
    Nat.zero_add] at hstarted
  exact ⟨hstarted, hallows⟩

/-! ## Errors -/

/-- The errors of a transfer: that of its source or its sink, and that the body
ended early, which is an error only if it was not accepted. -/
def Raises (t : Transfer) (error : BodyError) : Prop :=
  (∃ cause, error = .io cause) ∨
    t.earlyEnd = .refuse ∧ ∃ count cause, error = .endedEarly count cause

theorem Ends.raises {error : BodyError} (h : t.Ends count sink source run)
    (herror : run.result = .error error) : t.Raises error := by
  cases h with
  | complete hflush => cases herror
  | cutShort haccept hflush => cases herror
  | refused hrefuse =>
    cases herror
    exact .inr ⟨hrefuse, _, _, rfl⟩
  | notFlushed hflush =>
    cases herror
    exact .inl ⟨_, rfl⟩

/-- A transfer fails with one of its errors. -/
theorem Runs.raises {error : BodyError} (h : t.Runs count sink source run)
    (herror : run.result = .error error) : t.Raises error := by
  induction h with
  | reached hwant => exact (t.ends_finish ..).raises herror
  | ended hwant hread => exact (t.ends_endOfStream ..).raises herror
  | refused hwant hread hne hwrite =>
    cases herror
    exact .inl ⟨_, rfl⟩
  | copied hwant hread hne hwrite hrun ih => exact ih herror
  | interrupted hwant hread hkind hrun ih => exact ih herror
  | cutShort hwant hread hkind hearly =>
    exact (t.ends_endEarly ..).raises herror
  | failed hwant hread hkind hearly =>
    cases herror
    exact .inl ⟨_, rfl⟩

theorem runAndClose_raises {error : BodyError}
    (herror : (t.runAndClose source sink).result = .error error) :
    t.Raises error :=
  (runs_runFrom t 0 sink source).raises herror

/-- A transfer moves no file, and so never fails to. -/
theorem not_raises_notMoved {temporary final : Path} {cause : IoError} :
    ¬ t.Raises (.notMoved temporary final cause) := by
  rintro (⟨e, h⟩ | ⟨-, n, e, h⟩) <;> cases h

end Transfer

end HttpExchange
