import HttpExchange.Proofs.Body.Runs

/-! What the rule for early ends changes. Two transfers that differ in nothing but
that rule read, write and tell the same; one that refuses early ends and one that
accepts them part only where the first has refused a body, and there the second
flushes the sink and takes what has arrived. `TransferRun.accepting` is that
difference, and `Runs.accepting` carries it through the loop: it relates a whole
run under one rule to the run under the other. -/

namespace HttpExchange

namespace TransferRun

/-- What the transfer comes to that has refused a body after `count` bytes, if it
accepts the body instead and the flush of the sink gives this answer. -/
def acceptedResult (count : Nat) :
    Except IoError Unit → Except BodyError Received
  | .ok () => .ok (.cutShort count)
  | .error e => .error (.io e)

/-- The run that a run becomes if a body that ended early is accepted after all:
the sink is flushed, with this answer. -/
def accepting (answer : Except IoError Unit) (run : TransferRun) :
    TransferRun :=
  match run.result with
  | .error (.endedEarly count _) =>
    ⟨acceptedResult count answer, run.events ++ [.flushed answer], run.source⟩
  | _ => run

variable {answer : Except IoError Unit} {run : TransferRun}

theorem accepting_of_endedEarly {count : Nat} {cause : IoError}
    (h : run.result = .error (.endedEarly count cause)) :
    run.accepting answer = ⟨acceptedResult count answer,
      run.events ++ [.flushed answer], run.source⟩ := by
  rw [accepting, h]

/-- A run that refused nothing stays as it is. -/
theorem accepting_eq_self
    (h : ∀ count cause, run.result ≠ .error (.endedEarly count cause)) :
    run.accepting answer = run := by
  rw [accepting]
  split
  · next count cause hresult => exact absurd hresult (h count cause)
  · rfl

theorem accepting_after (events : Transcript) :
    (run.after events).accepting answer =
      (run.accepting answer).after events := by
  by_cases h : ∃ count cause, run.result = .error (.endedEarly count cause)
  · obtain ⟨count, cause, h⟩ := h
    have hafter : (run.after events).result =
        .error (.endedEarly count cause) := h
    rw [accepting_of_endedEarly h, accepting_of_endedEarly hafter, events_after,
      List.append_assoc]
    rfl
  · have hself : ∀ count cause,
        run.result ≠ .error (.endedEarly count cause) :=
      fun count cause hresult => h ⟨count, cause, hresult⟩
    have hafter : ∀ count cause,
        (run.after events).result ≠ .error (.endedEarly count cause) := hself
    rw [accepting_eq_self hself, accepting_eq_self hafter]

end TransferRun

namespace Transfer

/-- The transfer that refuses a body that ends early. -/
def refusing (t : Transfer) : Transfer :=
  { t with earlyEnd := .refuse }

/-- The transfer that accepts a body that ends early. -/
def accepting (t : Transfer) : Transfer :=
  { t with earlyEnd := .accept }

@[simp] theorem total_refusing (t : Transfer) : t.refusing.total = t.total := rfl

@[simp] theorem total_accepting (t : Transfer) :
    t.accepting.total = t.total := rfl

variable {t : Transfer} {count : Nat} {sink : Sink} {source : Source}
  {run : TransferRun}

/-! ## The ends of a transfer -/

theorem finish_accepting (answer : Except IoError Unit) :
    (finish count sink source).accepting answer = finish count sink source := by
  apply TransferRun.accepting_eq_self
  intro count' cause h
  rw [finish] at h
  split at h <;> cases h

theorem endEarly_accepting (cause : IoError) :
    (t.refusing.endEarly count cause sink source).accepting sink.flush =
      t.accepting.endEarly count cause sink source := by
  have hrefused : (t.refusing.endEarly count cause sink source).result =
      .error (.endedEarly count cause) := rfl
  rw [TransferRun.accepting_of_endedEarly hrefused, endEarly, endEarly,
    refusing, accepting]
  cases sink.flush <;> rfl

theorem endOfStream_accepting :
    (t.refusing.endOfStream count sink source).accepting sink.flush =
      t.accepting.endOfStream count sink source := by
  rw [endOfStream, endOfStream, total_refusing, total_accepting]
  cases t.total with
  | none => exact finish_accepting _
  | some total => exact endEarly_accepting _

/-! ## The loop -/

/-- Every way of a transfer that refuses early ends is, up to what `accepting`
says, the way of the one that accepts them. -/
theorem Runs.accepting (h : t.refusing.Runs count sink source run) :
    t.accepting.Runs count sink source (run.accepting sink.flush) := by
  induction h with
  | reached hwant =>
    rw [finish_accepting]
    exact .reached hwant
  | ended hwant hread =>
    rw [TransferRun.accepting_after, endOfStream_accepting]
    exact .ended hwant hread
  | refused hwant hread hne hwrite => exact .refused hwant hread hne hwrite
  | copied hwant hread hne hwrite hrun ih =>
    rw [TransferRun.accepting_after]
    exact .copied hwant hread hne hwrite ih
  | interrupted hwant hread hkind hrun ih =>
    rw [TransferRun.accepting_after]
    exact .interrupted hwant hread hkind ih
  | cutShort hwant hread hkind hearly =>
    rw [TransferRun.accepting_after, endEarly_accepting]
    exact .cutShort hwant hread hkind hearly
  | failed hwant hread hkind hearly => exact .failed hwant hread hkind hearly

theorem run_accepting (t : Transfer) (source : Source) (sink : Sink) :
    t.accepting.run source sink =
      (t.refusing.run source sink).accepting sink.flush := by
  rw [run, run, TransferRun.accepting_after,
    ← (runs_runFrom t.refusing 0 sink source).accepting.eq_runFrom]

/-- **The rule for early ends changes only the verdict.** Whether a body that ends
early is refused or accepted, the same bytes are written, the same is read, and
the observer hears the same of progress. The runs are equal but where the body is
refused: there the other one does no more than flush the sink, and comes to a body
cut short at the same count, or to the error of the flush. -/
theorem run_same_but_verdict (t : Transfer) (source : Source) (sink : Sink) :
    let strict := t.refusing.run source sink
    let lenient := t.accepting.run source sink
    (lenient.events.accepted = strict.events.accepted ∧
      lenient.events.supplied = strict.events.supplied ∧
      lenient.source = strict.source ∧
      lenient.events.notifications = strict.events.notifications) ∧
    match strict.result with
    | .error (.endedEarly count _) =>
      lenient.events = strict.events ++ [.flushed sink.flush] ∧
        lenient.result = match sink.flush with
          | .ok () => .ok (.cutShort count)
          | .error e => .error (.io e)
    | result => lenient.events = strict.events ∧ lenient.result = result := by
  intro strict lenient
  have hlenient : lenient = strict.accepting sink.flush :=
    run_accepting t source sink
  split
  · next count cause hresult =>
    rw [hlenient, TransferRun.accepting_of_endedEarly hresult]
    refine ⟨⟨?_, ?_, rfl, ?_⟩, rfl, ?_⟩
    -- A flush writes nothing, reads nothing and tells nothing.
    · rw [Transcript.accepted_append]
      exact List.append_nil _
    · rw [Transcript.supplied_append]
      exact List.append_nil _
    · rw [Transcript.notifications_append]
      exact List.append_nil _
    · cases sink.flush <;> rfl
  · next hresult =>
    have hself : strict.accepting sink.flush = strict :=
      TransferRun.accepting_eq_self hresult
    rw [hlenient, hself]
    exact ⟨⟨rfl, rfl, rfl, rfl⟩, rfl, rfl⟩

end Transfer

end HttpExchange
