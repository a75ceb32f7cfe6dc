import HttpExchange.Proofs.Body.ClosedForm
import HttpExchange.Proofs.Body.Progress

/-! What becomes of a transfer whose sink fails. A sink fails by an error other
than an interruption, by accepting nothing of a write, or by an error of its
flush. Whatever the error says of itself, the transfer stops there and fails with
it: only what a read says is ever taken for an early end. The invariant is
`TransferRun.HeedsFaults`. At every point the bytes that the sink has accepted
are the first that were read. -/

namespace HttpExchange

/-! ## Faults -/

namespace TransferEvent

/-- The error that an event of the sink stops a transfer with, if it does. -/
def fault? : TransferEvent → Option IoError
  | wrote _ (.error e) => if e.kind = .interrupted then none else some e
  | wrote _ (.ok []) => some .writeZero
  | flushed (.error e) => some e
  | _ => none

variable {offered accepted : Bytes} {e : IoError}

theorem fault?_wrote_ok (h : accepted ≠ []) :
    (wrote offered (.ok accepted)).fault? = none := by
  cases accepted with
  | nil => exact absurd rfl h
  | cons b bs => rfl

theorem fault?_wrote_error (h : e.kind ≠ .interrupted) :
    (wrote offered (.error e)).fault? = some e :=
  if_neg h

theorem fault?_wrote_interrupted (h : e.kind = .interrupted) :
    (wrote offered (.error e)).fault? = none :=
  if_pos h

end TransferEvent

namespace Transcript

/-- The sink fails nowhere. -/
def Faultless (events : Transcript) : Prop :=
  ∀ event ∈ events, event.fault? = none

/-- The sink fails with this error, and nothing happens after that. -/
def StopsWith (events : Transcript) (e : IoError) : Prop :=
  ∃ before event, events = before ++ [event] ∧ Faultless before ∧
    event.fault? = some e

variable {events more : Transcript} {event : TransferEvent} {e : IoError}

namespace Faultless

theorem nil : Faultless [] :=
  fun _ hmem => absurd hmem List.not_mem_nil

theorem cons (hevent : event.fault? = none) (h : Faultless events) :
    Faultless (event :: events) :=
  List.forall_mem_cons.mpr ⟨hevent, h⟩

theorem singleton (hevent : event.fault? = none) : Faultless [event] :=
  nil.cons hevent

theorem append (h : Faultless events) (hmore : Faultless more) :
    Faultless (events ++ more) :=
  List.forall_mem_append.mpr ⟨h, hmore⟩

theorem of_append (h : Faultless (events ++ more)) :
    Faultless events ∧ Faultless more :=
  List.forall_mem_append.mp h

end Faultless

namespace StopsWith

theorem singleton (hevent : event.fault? = some e) : StopsWith [event] e :=
  ⟨[], event, rfl, .nil, hevent⟩

theorem append (h : Faultless events) (hmore : StopsWith more e) :
    StopsWith (events ++ more) e := by
  obtain ⟨before, event, rfl, hbefore, hevent⟩ := hmore
  exact ⟨events ++ before, event, (List.append_assoc ..).symm,
    h.append hbefore, hevent⟩

theorem cons (hevent : event.fault? = none) (h : StopsWith events e) :
    StopsWith (event :: events) e :=
  append (.singleton hevent) h

theorem not_faultless (h : StopsWith events e) : ¬ Faultless events := by
  obtain ⟨before, event, rfl, -, hevent⟩ := h
  intro hnone
  rw [hnone event List.mem_concat_self] at hevent
  cases hevent

/-- There is one fault, which comes last. -/
theorem eq_of_mem (h : StopsWith events e) {e' : IoError}
    (hmem : event ∈ events) (hevent : event.fault? = some e') :
    e' = e ∧ events.getLast? = some event := by
  obtain ⟨before, last, rfl, hbefore, hlast⟩ := h
  rcases List.mem_append.mp hmem with hmem | hmem
  · rw [hbefore event hmem] at hevent
    cases hevent
  · obtain rfl := List.mem_singleton.mp hmem
    rw [hlast] at hevent
    cases hevent
    exact ⟨rfl, List.getLast?_concat ..⟩

end StopsWith

/-! ## What the sink answers -/

/-- The writes and flushes are answered as by a sink with these writes to come,
which answers every flush with `answer`. -/
def AnsweredBy (answer : Except IoError Unit) :
    List WriteStep → Transcript → Prop
  | _, [] => True
  | writes, .wrote offered result :: rest =>
    result = (writes.headD .acceptAll).result offered ∧
      AnsweredBy answer writes.tail rest
  | writes, .flushed result :: rest =>
    result = answer ∧ AnsweredBy answer writes rest
  | writes, _ :: rest => AnsweredBy answer writes rest

end Transcript

/-! ## Writing -/

namespace Sink.Writes

variable {writes rest : List WriteStep} {bytes : Bytes} {events : Transcript}
  {outcome : Except IoError (List WriteStep)} {e : IoError}

/-- Writing that succeeds meets no fault. -/
theorem faultless (h : Writes writes bytes events outcome)
    (hok : outcome = .ok rest) : events.Faultless := by
  induction h with
  | done => exact .nil
  | all hne => exact .singleton (TransferEvent.fault?_wrote_ok hne)
  | some hne hresult hsome h ih =>
    exact (ih hok).cons (TransferEvent.fault?_wrote_ok hsome)
  | none hne hresult => cases hok
  | interrupted hne hresult hkind h ih =>
    exact (ih hok).cons (TransferEvent.fault?_wrote_interrupted hkind)
  | failed hne hresult hkind => cases hok

/-- Writing that fails stops at the fault. -/
theorem stopsWith (h : Writes writes bytes events outcome)
    (herror : outcome = .error e) : events.StopsWith e := by
  induction h with
  | done => cases herror
  | all hne => cases herror
  | some hne hresult hsome h ih =>
    exact (ih herror).cons (TransferEvent.fault?_wrote_ok hsome)
  | none hne hresult =>
    cases herror
    exact .singleton rfl
  | interrupted hne hresult hkind h ih =>
    exact (ih herror).cons (TransferEvent.fault?_wrote_interrupted hkind)
  | failed hne hresult hkind =>
    cases herror
    exact .singleton (TransferEvent.fault?_wrote_error hkind)

/-- What has been accepted are the first of the bytes. -/
theorem accepted_isPrefix (h : Writes writes bytes events outcome) :
    events.accepted <+: bytes := by
  induction h with
  | done => exact List.prefix_refl _
  | all hne =>
    rw [Transcript.accepted_cons, Transcript.accepted_nil, List.append_nil]
    exact List.prefix_refl _
  | @some step writes bytes accepted events outcome hne hresult hsome h ih =>
    have hsplit := WriteStep.append_drop_of_result hresult
    rw [Transcript.accepted_cons]
    calc accepted ++ events.accepted
      _ <+: accepted ++ bytes.drop accepted.length :=
        (List.prefix_append_right_inj accepted).mpr ih
      _ = bytes := hsplit
  | none hne hresult => exact List.nil_prefix
  | interrupted hne hresult hkind h ih => exact ih
  | failed hne hresult hkind => exact List.nil_prefix

/-- Writing is answered by the writes to come, and leaves those that are then to
come to what follows. -/
theorem answeredBy (h : Writes writes bytes events outcome)
    (answer : Except IoError Unit) {more : Transcript}
    (hmore : ∀ rest, outcome = .ok rest → more.AnsweredBy answer rest)
    (hnone : ∀ e, outcome = .error e → more = []) :
    Transcript.AnsweredBy answer writes (events ++ more) := by
  induction h with
  | done => exact hmore _ rfl
  | all hne => exact ⟨rfl, hmore _ rfl⟩
  | some hne hresult hsome h ih => exact ⟨hresult.symm, ih hmore hnone⟩
  | none hne hresult =>
    rw [hnone _ rfl]
    exact ⟨hresult.symm, trivial⟩
  | interrupted hne hresult hkind h ih =>
    exact ⟨hresult.symm, ih hmore hnone⟩
  | failed hne hresult hkind =>
    rw [hnone _ rfl]
    exact ⟨hresult.symm, trivial⟩

end Sink.Writes

/-! ## Runs -/

/-- The sink fails nowhere, or the run stops at the fault and fails with its
error. -/
def TransferRun.HeedsFaults (run : TransferRun) : Prop :=
  run.events.Faultless ∨
    ∃ e, run.events.StopsWith e ∧ run.result = .error (.io e)

theorem TransferRun.HeedsFaults.after {run : TransferRun} {events : Transcript}
    (hevents : events.Faultless) (h : run.HeedsFaults) :
    (run.after events).HeedsFaults := by
  rcases h with h | ⟨e, h, hresult⟩
  · exact .inl (hevents.append h)
  · exact .inr ⟨e, h.append hevents, hresult⟩

namespace Transfer

variable {t : Transfer} {count : Nat} {sink : Sink} {source : Source}
  {run : TransferRun}

/-- The end of a transfer heeds a fault of the flush. -/
theorem Ends.heedsFaults (h : t.Ends count sink source run) :
    run.HeedsFaults := by
  cases h with
  | complete hflush => exact .inl (.cons rfl (.singleton rfl))
  | cutShort haccept hflush => exact .inl (.singleton rfl)
  | refused hrefuse => exact .inl .nil
  | notFlushed hflush => exact .inr ⟨_, .singleton rfl, rfl⟩

/-- Every way of a transfer heeds the faults of the sink. -/
theorem Runs.heedsFaults (h : t.Runs count sink source run) :
    run.HeedsFaults := by
  induction h with
  | reached hwant => exact (t.ends_finish ..).heedsFaults
  | ended hwant hread =>
    exact (t.ends_endOfStream ..).heedsFaults.after (.singleton rfl)
  | refused hwant hread hne hwrite =>
    have hstops := (Sink.writes_of_writeAll hwrite).stopsWith rfl
    exact .inr ⟨_, hstops.cons rfl, rfl⟩
  | copied hwant hread hne hwrite hrun ih =>
    have hevents := (Sink.writes_of_writeAll hwrite).faultless rfl
    exact ih.after ((hevents.cons rfl).append (.singleton rfl))
  | interrupted hwant hread hkind hrun ih => exact ih.after (.singleton rfl)
  | cutShort hwant hread hkind hearly =>
    exact (t.ends_endEarly ..).heedsFaults.after (.singleton rfl)
  | failed hwant hread hkind hearly => exact .inl (.singleton rfl)

theorem Ends.accepted_isPrefix (h : t.Ends count sink source run) :
    run.events.accepted <+: run.events.supplied := by
  rw [h.idle.1]
  exact List.nil_prefix

/-- What the sink has accepted are the first of the bytes that were read. -/
theorem Runs.accepted_isPrefix (h : t.Runs count sink source run) :
    run.events.accepted <+: run.events.supplied := by
  induction h with
  | reached hwant => exact (t.ends_finish ..).accepted_isPrefix
  | ended hwant hread => exact (t.ends_endOfStream ..).accepted_isPrefix
  | @refused count sink source want bytes rest events e hwant hread hne
      hwrite =>
    have hways := Sink.writes_of_writeAll hwrite
    calc events.accepted
      _ <+: bytes := hways.accepted_isPrefix
      _ = bytes ++ events.supplied := by rw [hways.supplied, List.append_nil]
  | @copied count sink source want bytes rest events writes run hwant hread hne
      hwrite hrun ih =>
    have hways := Sink.writes_of_writeAll hwrite
    simpa [TransferEvent.accepted, TransferEvent.supplied, hways.accepted rfl,
      hways.supplied] using ih
  | interrupted hwant hread hkind hrun ih => exact ih
  | cutShort hwant hread hkind hearly =>
    exact (t.ends_endEarly ..).accepted_isPrefix
  | failed hwant hread hkind hearly => exact List.prefix_refl _

/-- A flush at the end is answered by the sink. -/
theorem Ends.answeredBy (h : t.Ends count sink source run) :
    run.events.AnsweredBy sink.flush sink.writes := by
  cases h with
  | complete hflush => exact ⟨hflush.symm, trivial⟩
  | cutShort haccept hflush => exact ⟨hflush.symm, trivial⟩
  | refused hrefuse => exact trivial
  | notFlushed hflush => exact ⟨hflush.symm, trivial⟩

/-- The events of a transfer are what its sink does. -/
theorem Runs.answeredBy (h : t.Runs count sink source run) :
    run.events.AnsweredBy sink.flush sink.writes := by
  induction h with
  | reached hwant => exact (t.ends_finish ..).answeredBy
  | ended hwant hread => exact (t.ends_endOfStream ..).answeredBy
  | @refused count sink source want bytes rest events e hwant hread hne
      hwrite =>
    have hevents : Transcript.AnsweredBy sink.flush sink.writes
        (events ++ []) :=
      (Sink.writes_of_writeAll hwrite).answeredBy _ nofun fun _ _ => rfl
    rw [List.append_nil] at hevents
    exact hevents
  | @copied count sink source want bytes rest events writes run hwant hread hne
      hwrite hrun ih =>
    rw [TransferRun.events_after, List.append_assoc, List.cons_append]
    refine (Sink.writes_of_writeAll hwrite).answeredBy sink.flush ?_ nofun
    rintro _ ⟨⟩
    exact ih
  | interrupted hwant hread hkind hrun ih => exact ih
  | cutShort hwant hread hkind hearly =>
    exact (t.ends_endEarly ..).answeredBy
  | failed hwant hread hkind hearly => exact trivial

/-- A transfer that fails with an error of its source or sink does not say that it
is finished. -/
theorem Runs.finished_not_mem {e : IoError} (h : t.Runs count sink source run)
    (herror : run.result = .error (.io e)) :
    .finished ∉ run.events.notifications := by
  obtain ⟨counts, htells⟩ := h.tells
  rw [htells.told, TransferRun.farewell, herror, List.append_nil]
  simp

/-- **The sink's faults are the sink's.** Whatever a transfer's sink does, what it
has accepted are the first of the bytes that were read. Where it fails, the
transfer ends and fails with that very error, whatever the error looks like and
whatever the rule for early ends; and it does not say that it is finished. -/
theorem run_sink_fault (t : Transfer) (source : Source) (sink : Sink) :
    (t.run source sink).events.AnsweredBy sink.flush sink.writes ∧
      (t.run source sink).events.accepted <+:
        (t.run source sink).events.supplied ∧
      ∀ event ∈ (t.run source sink).events, ∀ e, event.fault? = some e →
        (t.run source sink).result = .error (.io e) ∧
          (t.run source sink).events.getLast? = some event ∧
          .finished ∉ (t.run source sink).events.notifications := by
  have hruns := runs_runFrom t 0 sink source
  refine ⟨hruns.answeredBy, hruns.accepted_isPrefix, ?_⟩
  intro event hmem e hfault
  have hheeds : (t.run source sink).HeedsFaults :=
    hruns.heedsFaults.after (.singleton rfl)
  rcases hheeds with hnone | ⟨e', hstops, hresult⟩
  · rw [hnone event hmem] at hfault
    cases hfault
  · obtain ⟨rfl, hlast⟩ := hstops.eq_of_mem hmem hfault
    refine ⟨hresult, hlast, ?_⟩
    change .finished ∉ .started :: (t.runFrom 0 sink source).events.notifications
    rw [List.mem_cons, not_or]
    exact ⟨nofun, hruns.finished_not_mem hresult⟩

/-- A sink that takes one byte of three and then fails as a stream does that ends
too early, in a transfer that accepts early ends. -/
theorem run_sink_fault_premature_eof :
    let failure : IoError := .message .unexpectedEof "premature eof".toList
    let run := ({ total := none, earlyEnd := .accept } : Transfer).run
      [.piece [1, 2, 3]] { writes := [.accept 1, .fail failure] }
    (.wrote [2, 3] (.error failure) ∈ run.events ∧
      (TransferEvent.wrote [2, 3] (.error failure)).fault? = some failure) ∧
    run.result = .error (.io failure) := by
  intro failure run
  have hevents : run.events = [.notified .started, .read 8192 (.ok [1, 2, 3]),
      .wrote [1, 2, 3] (.ok [1]), .wrote [2, 3] (.error failure)] := by cbv
  have hmem : .wrote [2, 3] (.error failure) ∈ run.events := by
    rw [hevents]
    exact List.mem_of_getLast? rfl
  have hfault : (TransferEvent.wrote [2, 3] (.error failure)).fault? =
    some failure := rfl
  exact ⟨⟨hmem, hfault⟩,
    ((run_sink_fault _ _ _).2.2 _ hmem failure hfault).1⟩

end Transfer

end HttpExchange
