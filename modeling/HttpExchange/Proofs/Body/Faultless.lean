import HttpExchange.Proofs.Body.SinkFaults

/-! Sinks that fail nowhere. They may take the bytes in any number of writes and be
interrupted in any of them: the transfer comes to the same result, with the same
bytes, and tells its observer the same, as one into a sink in memory, which takes
everything at once. `Runs.of_faultless` is the step from one loop to the other. -/

namespace HttpExchange

/-- What two runs have in common whose sinks take the same bytes in different
ways. -/
structure TransferRun.Agrees (run run' : TransferRun) : Prop where
  result : run.result = run'.result
  accepted : run.events.accepted = run'.events.accepted
  notifications : run.events.notifications = run'.events.notifications

theorem TransferRun.Agrees.after {run run' : TransferRun}
    {events events' : Transcript} (h : run.Agrees run')
    (haccepted : events.accepted = events'.accepted)
    (hnotifications : events.notifications = events'.notifications) :
    (run.after events).Agrees (run'.after events') where
  result := h.result
  accepted := by
    rw [events_after, events_after, Transcript.accepted_append,
      Transcript.accepted_append, haccepted, h.accepted]
  notifications := by
    rw [events_after, events_after, Transcript.notifications_append,
      Transcript.notifications_append, hnotifications, h.notifications]

/-- A sink in memory takes all bytes at once. -/
theorem Sink.writeAll_nil {bytes : Bytes} (h : bytes ≠ []) :
    writeAll [] bytes = ([.wrote bytes (.ok bytes)], .ok []) := by
  cases bytes with
  | nil => exact absurd rfl h
  | cons b bs => rfl

namespace Transfer

variable {t : Transfer} {count : Nat} {sink : Sink} {source : Source}
  {run : TransferRun}

theorem finish_of_faultless
    (h : (finish count sink source).events.Faultless) :
    finish count sink source = finish count {} source := by
  rw [finish] at h ⊢
  cases hflush : sink.flush with
  | ok => rfl
  | error e =>
    rw [hflush] at h
    exact absurd h (Transcript.StopsWith.singleton rfl).not_faultless

theorem endEarly_of_faultless {cause : IoError}
    (h : (t.endEarly count cause sink source).events.Faultless) :
    t.endEarly count cause sink source = t.endEarly count cause {} source := by
  rw [endEarly, endEarly] at *
  cases hearly : t.earlyEnd with
  | refuse => rfl
  | accept =>
    cases hflush : sink.flush with
    | ok => rfl
    | error e =>
      rw [hearly, hflush] at h
      exact absurd h (Transcript.StopsWith.singleton rfl).not_faultless

theorem endOfStream_of_faultless
    (h : (t.endOfStream count sink source).events.Faultless) :
    t.endOfStream count sink source = t.endOfStream count {} source := by
  rw [endOfStream] at h
  rw [endOfStream, endOfStream]
  cases htotal : t.total with
  | none =>
    rw [htotal] at h
    exact finish_of_faultless h
  | some total =>
    rw [htotal] at h
    exact endEarly_of_faultless h

/-- A transfer whose sink fails nowhere comes to the same as one into memory. -/
theorem Runs.of_faultless (h : t.Runs count sink source run)
    (hnone : run.events.Faultless) :
    ∃ run', t.Runs count {} source run' ∧ run.Agrees run' := by
  induction h with
  | reached hwant =>
    rw [finish_of_faultless hnone]
    exact ⟨_, .reached hwant, rfl, rfl, rfl⟩
  | ended hwant hread =>
    rw [endOfStream_of_faultless hnone.of_append.2]
    exact ⟨_, .ended hwant hread, rfl, rfl, rfl⟩
  | refused hwant hread hne hwrite =>
    have hstops := (Sink.writes_of_writeAll hwrite).stopsWith rfl
    exact absurd hnone (hstops.cons rfl).not_faultless
  | @copied count sink source want bytes rest events writes run hwant hread hne
      hwrite hrun ih =>
    obtain ⟨run', hruns, hagrees⟩ := ih hnone.of_append.2
    have hways := Sink.writes_of_writeAll hwrite
    refine ⟨_, .copied hwant hread hne (Sink.writeAll_nil hne) hruns,
      hagrees.after ?_ ?_⟩
    · simp [TransferEvent.accepted, hways.accepted rfl]
    · have hquiet : Transcript.notifications (.read want (.ok bytes) :: events) =
        [] := hways.notifications
      rw [Transcript.notifications_append, hquiet]
      rfl
  | interrupted hwant hread hkind hrun ih =>
    obtain ⟨run', hruns, hagrees⟩ := ih hnone.of_append.2
    exact ⟨_, .interrupted hwant hread hkind hruns, hagrees.after rfl rfl⟩
  | cutShort hwant hread hkind hearly =>
    rw [endEarly_of_faultless hnone.of_append.2]
    exact ⟨_, .cutShort hwant hread hkind hearly, rfl, rfl, rfl⟩
  | failed hwant hread hkind hearly =>
    exact ⟨_, .failed hwant hread hkind hearly, rfl, rfl, rfl⟩

/-- A transfer whose sink fails nowhere, and is closed afterwards, comes to the
same as one into memory. -/
theorem runAndClose_agrees
    (h : (t.runAndClose source sink).events.Faultless) :
    (t.runAndClose source sink).Agrees (t.run source {}) := by
  obtain ⟨run', hruns, hagrees⟩ :=
    (runs_runFrom t 0 sink source).of_faultless h.of_append.1.of_append.2
  rw [hruns.eq_runFrom] at hagrees
  have hrun : (t.run source sink).Agrees (t.run source {}) :=
    hagrees.after rfl rfl
  -- Closing the sink writes nothing and tells nothing.
  refine ⟨hrun.result, ?_, ?_⟩
  · rw [← hrun.accepted]
    exact (Transcript.accepted_append ..).trans (List.append_nil _)
  · rw [← hrun.notifications]
    exact (Transcript.notifications_append ..).trans (List.append_nil _)

/-! ## Sinks that refuse nothing -/

theorem Ends.faultless (h : t.Ends count sink source run)
    (hsink : sink.flushError = none) : run.events.Faultless := by
  cases h with
  | complete hflush => exact .cons rfl (.singleton rfl)
  | cutShort haccept hflush => exact .singleton rfl
  | refused hrefuse => exact .nil
  | notFlushed hflush =>
    rw [Sink.flush, hsink] at hflush
    cases hflush

/-- A sink that refuses nothing fails nowhere. -/
theorem Runs.faultless (h : t.Runs count sink source run)
    (hsink : sink.Willing) : run.events.Faultless := by
  induction h with
  | reached hwant => exact (t.ends_finish ..).faultless hsink.flush
  | ended hwant hread =>
    exact ((t.ends_endOfStream ..).faultless hsink.flush).cons rfl
  | refused hwant hread hne hwrite =>
    obtain ⟨rest, hok, -⟩ :=
      (Sink.writes_of_writeAll hwrite).ok_of_goesOn hsink.writes
    cases hok
  | copied hwant hread hne hwrite hrun ih =>
    have hways := Sink.writes_of_writeAll hwrite
    obtain ⟨rest, hok, hgoes⟩ := hways.ok_of_goesOn hsink.writes
    cases hok
    exact (((hways.faultless rfl).cons rfl).append (.singleton rfl)).append
      (ih ⟨hgoes, hsink.flush⟩)
  | interrupted hwant hread hkind hrun ih => exact (ih hsink).cons rfl
  | cutShort hwant hread hkind hearly =>
    exact ((t.ends_endEarly ..).faultless hsink.flush).cons rfl
  | failed hwant hread hkind hearly => exact .singleton rfl

theorem runAndClose_faultless (hsink : sink.Willing) :
    (t.runAndClose source sink).events.Faultless :=
  (((runs_runFrom t 0 sink source).faultless hsink).cons rfl).append
    (.singleton rfl)

end Transfer

end HttpExchange
