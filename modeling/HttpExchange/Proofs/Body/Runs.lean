import HttpExchange.Body.Transfer

/-! The ways a transfer can go. `Sink.Writes` and `Transfer.Runs` list them by
what happens first, one constructor for each branch of the loop, and say
everything that the branch depends on; `Transfer.Ends` lists the ways in which a
transfer ends once nothing more is read. `writes_writeAll` and `runs_runFrom` are
the only places that unfold the loops: whatever holds of every transfer is
proved by induction on these relations. -/

namespace HttpExchange

/-! ## Writing -/

namespace Sink

/-- The ways in which bytes are written: the writes to come, the bytes, what
happens, and the writes that are then to come or the error that stops it. -/
inductive Writes : List WriteStep → Bytes → Transcript →
    Except IoError (List WriteStep) → Prop where
  /-- Nothing is left to write. -/
  | done {writes} : Writes writes [] [] (.ok writes)
  /-- The sink takes all that it is offered. -/
  | all {bytes} (hne : bytes ≠ []) :
      Writes [] bytes [.wrote bytes (.ok bytes)] (.ok [])
  /-- The sink takes some of it. -/
  | some {step writes bytes accepted events outcome} (hne : bytes ≠ [])
      (hresult : step.result bytes = .ok accepted) (hsome : accepted ≠ [])
      (h : Writes writes (bytes.drop accepted.length) events outcome) :
      Writes (step :: writes) bytes (.wrote bytes (.ok accepted) :: events)
        outcome
  /-- The sink takes none of it. -/
  | none {step writes bytes} (hne : bytes ≠ [])
      (hresult : step.result bytes = .ok []) :
      Writes (step :: writes) bytes [.wrote bytes (.ok [])] (.error .writeZero)
  /-- The write is interrupted. -/
  | interrupted {step writes bytes e events outcome} (hne : bytes ≠ [])
      (hresult : step.result bytes = .error e) (hkind : e.kind = .interrupted)
      (h : Writes writes bytes events outcome) :
      Writes (step :: writes) bytes (.wrote bytes (.error e) :: events) outcome
  /-- The write fails. -/
  | failed {step writes bytes e} (hne : bytes ≠ [])
      (hresult : step.result bytes = .error e)
      (hkind : e.kind ≠ .interrupted) :
      Writes (step :: writes) bytes [.wrote bytes (.error e)] (.error e)

/-- Writing goes one of the ways. -/
theorem writes_writeAll (writes : List WriteStep) (bytes : Bytes) :
    Writes writes bytes (writeAll writes bytes).1 (writeAll writes bytes).2 := by
  induction writes generalizing bytes with
  | nil =>
    cases bytes with
    | nil => exact .done
    | cons b rest => exact .all (by simp)
  | cons step writes ih =>
    cases bytes with
    | nil => exact .done
    | cons b rest =>
      have hne : b :: rest ≠ [] := by simp
      cases hresult : step.result (b :: rest) with
      | error e =>
        by_cases hkind : e.kind = .interrupted
        · simpa [writeAll, hresult, hkind] using
            Writes.interrupted hne hresult hkind (ih _)
        · simpa [writeAll, hresult, hkind] using
            @Writes.failed step writes _ _ hne hresult hkind
      | ok accepted =>
        cases accepted with
        | nil =>
          simpa [writeAll, hresult] using
            @Writes.none step writes _ hne hresult
        | cons a more =>
          simpa [writeAll, hresult] using
            Writes.some hne hresult (by simp) (ih _)

/-- The way of a write whose result is known. -/
theorem writes_of_writeAll {writes : List WriteStep} {bytes : Bytes}
    {events : Transcript} {outcome : Except IoError (List WriteStep)}
    (h : writeAll writes bytes = (events, outcome)) :
    Writes writes bytes events outcome := by
  have hways := writes_writeAll writes bytes
  rw [h] at hways
  exact hways

end Sink

/-! ## Transfers -/

namespace Transfer

/-- The end of a transfer whose stream has ended by itself. -/
def endOfStream (t : Transfer) (count : Nat) (sink : Sink) (source : Source) :
    TransferRun :=
  match t.total with
  | some total => t.endEarly count (missingRest count total) sink source
  | none => finish count sink source

/-- The ways in which a transfer ends with `count` bytes written, when `source` is
left. -/
inductive Ends (t : Transfer) (count : Nat) (sink : Sink) (source : Source) :
    TransferRun → Prop where
  /-- The body is whole and the sink has been flushed. -/
  | complete (hflush : sink.flush = .ok ()) :
      Ends t count sink source
        ⟨.ok (.complete count), [.flushed (.ok ()), .notified .finished], source⟩
  /-- The body ended early, which is accepted, and the sink has been flushed. -/
  | cutShort (haccept : t.earlyEnd = .accept) (hflush : sink.flush = .ok ()) :
      Ends t count sink source
        ⟨.ok (.cutShort count), [.flushed (.ok ())], source⟩
  /-- The body ended early, which is refused. -/
  | refused {cause} (hrefuse : t.earlyEnd = .refuse) :
      Ends t count sink source ⟨.error (.endedEarly count cause), [], source⟩
  /-- The sink cannot be flushed. -/
  | notFlushed {e} (hflush : sink.flush = .error e) :
      Ends t count sink source ⟨.error (.io e), [.flushed (.error e)], source⟩

theorem ends_finish (t : Transfer) (count : Nat) (sink : Sink)
    (source : Source) : t.Ends count sink source (finish count sink source) := by
  rw [finish]
  cases hflush : sink.flush with
  | ok => exact .complete hflush
  | error e => exact .notFlushed hflush

theorem ends_endEarly (t : Transfer) (count : Nat) (cause : IoError)
    (sink : Sink) (source : Source) :
    t.Ends count sink source (t.endEarly count cause sink source) := by
  rw [endEarly]
  cases hearly : t.earlyEnd with
  | refuse => exact .refused hearly
  | accept =>
    cases hflush : sink.flush with
    | ok => exact .cutShort hearly hflush
    | error e => exact .notFlushed hflush

theorem ends_endOfStream (t : Transfer) (count : Nat) (sink : Sink)
    (source : Source) :
    t.Ends count sink source (t.endOfStream count sink source) := by
  rw [endOfStream]
  cases t.total with
  | none => exact t.ends_finish ..
  | some total => exact t.ends_endEarly ..

/-- The transfers that go on with `count` bytes written, into `sink` and from
`source`. -/
inductive Runs (t : Transfer) : Nat → Sink → Source → TransferRun → Prop where
  /-- The declared length has been reached. -/
  | reached {count sink source} (hwant : t.want? count = none) :
      Runs t count sink source (finish count sink source)
  /-- The stream ends. -/
  | ended {count sink source want rest} (hwant : t.want? count = some want)
      (hread : source.read want = (.ok [], rest)) :
      Runs t count sink source
        ((t.endOfStream count sink rest).after [.read want (.ok [])])
  /-- The sink refuses what has been read. -/
  | refused {count sink source want bytes rest events e}
      (hwant : t.want? count = some want)
      (hread : source.read want = (.ok bytes, rest)) (hne : bytes ≠ [])
      (hwrite : Sink.writeAll sink.writes bytes = (events, .error e)) :
      Runs t count sink source
        ⟨.error (.io e), .read want (.ok bytes) :: events, rest⟩
  /-- The sink takes what has been read. -/
  | copied {count sink source want bytes rest events writes run}
      (hwant : t.want? count = some want)
      (hread : source.read want = (.ok bytes, rest)) (hne : bytes ≠ [])
      (hwrite : Sink.writeAll sink.writes bytes = (events, .ok writes))
      (hrun : Runs t (count + bytes.length) { sink with writes := writes } rest
        run) :
      Runs t count sink source
        (run.after (.read want (.ok bytes) :: events ++
          [.notified (.progressed (count + bytes.length) t.total)]))
  /-- The read is interrupted. -/
  | interrupted {count sink source want rest e run}
      (hwant : t.want? count = some want)
      (hread : source.read want = (.error e, rest))
      (hkind : e.kind = .interrupted) (hrun : Runs t count sink rest run) :
      Runs t count sink source (run.after [.read want (.error e)])
  /-- The read fails because the stream ended before its time. -/
  | cutShort {count sink source want rest e}
      (hwant : t.want? count = some want)
      (hread : source.read want = (.error e, rest))
      (hkind : e.kind ≠ .interrupted) (hearly : e.saysEarlyEnd = true) :
      Runs t count sink source
        ((t.endEarly count e sink rest).after [.read want (.error e)])
  /-- The read fails for another reason. -/
  | failed {count sink source want rest e}
      (hwant : t.want? count = some want)
      (hread : source.read want = (.error e, rest))
      (hkind : e.kind ≠ .interrupted) (hearly : e.saysEarlyEnd = false) :
      Runs t count sink source ⟨.error (.io e), [.read want (.error e)], rest⟩

/-- The loop goes one of the ways. -/
theorem runs_runFrom (t : Transfer) (count : Nat) (sink : Sink)
    (source : Source) :
    t.Runs count sink source (t.runFrom count sink source) := by
  induction hn : source.size using Nat.strongRecOn
    generalizing count sink source with
  | _ n ih =>
    subst hn
    rw [runFrom]
    split
    · next hwant => exact .reached hwant
    · next want hwant =>
      split
      · next rest hread => exact .ended hwant hread
      · next b bs rest hread =>
        have hsize := Source.size_of_read_cons hread
        split
        · next hwrite => exact .refused hwant hread (by simp) hwrite
        · next hwrite =>
          exact .copied hwant hread (by simp) hwrite (ih _ hsize _ _ _ rfl)
      · next e rest hread =>
        have hsize := Source.size_of_read_error hread
        split
        · next hkind =>
          exact .interrupted hwant hread hkind (ih _ hsize _ _ _ rfl)
        · next hkind =>
          split
          · next hearly => exact .cutShort hwant hread hkind hearly
          · next hearly =>
            exact .failed hwant hread hkind (Bool.not_eq_true _ ▸ hearly)

/-- A transfer goes one way only. -/
theorem Runs.unique {t : Transfer} {count : Nat} {sink : Sink} {source : Source}
    {run run' : TransferRun} (h : t.Runs count sink source run)
    (h' : t.Runs count sink source run') : run = run' := by
  -- Two different ways disagree on what is wanted, read or written.
  induction h generalizing run' with
  | reached hwant => cases h' <;> simp_all
  | ended hwant hread => cases h' <;> simp_all
  | refused hwant hread hne hwrite => cases h' <;> simp_all
  | copied hwant hread hne hwrite hrun ih =>
    cases h' with
    | copied hwant' hread' hne' hwrite' hrun' =>
      rw [hwant] at hwant'
      cases hwant'
      rw [hread] at hread'
      cases hread'
      rw [hwrite] at hwrite'
      cases hwrite'
      rw [ih hrun']
    | _ => simp_all
  | interrupted hwant hread hkind hrun ih =>
    cases h' with
    | interrupted hwant' hread' hkind' hrun' =>
      rw [hwant] at hwant'
      cases hwant'
      rw [hread] at hread'
      cases hread'
      rw [ih hrun']
    | _ => simp_all
  | cutShort hwant hread hkind hearly => cases h' <;> simp_all
  | failed hwant hread hkind hearly => cases h' <;> simp_all

/-- The way of a transfer is that of the loop. -/
theorem Runs.eq_runFrom {t : Transfer} {count : Nat} {sink : Sink}
    {source : Source} {run : TransferRun} (h : t.Runs count sink source run) :
    run = t.runFrom count sink source :=
  h.unique (runs_runFrom t count sink source)

/-! ## What a step asks for -/

/-- A transfer asks for at least one byte, and for no more than is left of the
declared length. -/
theorem want?_eq_some {t : Transfer} {count want : Nat}
    (h : t.want? count = some want) :
    0 < want ∧ want ≤ t.capacity ∧
      ∀ total, t.total = some total → count + want ≤ total := by
  have hcap : 0 < t.capacity := by
    rw [capacity]
    omega
  rw [want?] at h
  split at h
  · next total htotal =>
    split at h
    · cases h
    · cases h
      refine ⟨by omega, by omega, ?_⟩
      intro total' heq
      rw [htotal] at heq
      cases heq
      omega
  · next htotal =>
    cases h
    refine ⟨hcap, Nat.le_refl _, ?_⟩
    intro total heq
    rw [htotal] at heq
    cases heq

/-- Nothing more is asked for exactly when the declared length is reached. -/
theorem want?_eq_none_iff {t : Transfer} {count : Nat} :
    t.want? count = none ↔ ∃ total, t.total = some total ∧ total ≤ count := by
  rw [want?]
  cases t.total with
  | none => simp
  | some total => simp

end Transfer

end HttpExchange
