import HttpExchange.Proofs.Body.Runs

/-! What a source delivers and what a sink takes. `Source.Delivers` forgets how
the bytes of a source are cut into pieces and where reads are interrupted; the
lemmas below it say what each read leaves of them. A sink that refuses nothing
takes all the bytes that it is offered, in however many writes. -/

namespace HttpExchange

/-! ## Sources -/

/-- The source delivers `data`, in any pieces and with any interruptions, and
then the stream ends, by itself or with an error. What the source would do after
that makes no difference. -/
inductive Source.Delivers : Source → Bytes → Option IoError → Prop where
  | exhausted : Delivers [] [] none
  | ended {rest} : Delivers (.eof :: rest) [] none
  | failed {e rest} (hkind : e.kind ≠ .interrupted) :
      Delivers (.fail e :: rest) [] (some e)
  | piece {bytes rest data ending} (h : Delivers rest data ending) :
      Delivers (.piece bytes :: rest) (bytes ++ data) ending
  | interrupted {e rest data ending} (hkind : e.kind = .interrupted)
      (h : Delivers rest data ending) : Delivers (.fail e :: rest) data ending

namespace Source

/-- A read yields no more than it asks for. -/
theorem length_le_of_read {want : Nat} {s rest : Source} {bytes : Bytes}
    (h : s.read want = (.ok bytes, rest)) : bytes.length ≤ want := by
  induction s with
  | nil =>
    cases h
    exact Nat.zero_le _
  | cons step s ih =>
    cases step with
    | piece supply =>
      rw [read] at h
      split at h
      · exact ih h
      · cases h
        exact List.length_take_le ..
    | fail e => cases h
    | eof =>
      cases h
      exact Nat.zero_le _

namespace Delivers

variable {want : Nat} {s rest : Source} {data bytes : Bytes}
  {ending : Option IoError} {e : IoError}

/-- The bytes of a read are the first that the source delivers. -/
theorem of_read_bytes (h : s.Delivers data ending)
    (hread : s.read want = (.ok bytes, rest)) (hne : bytes ≠ []) :
    ∃ later, data = bytes ++ later ∧ rest.Delivers later ending := by
  induction h with
  | exhausted =>
    cases hread
    exact absurd rfl hne
  | ended =>
    cases hread
    exact absurd rfl hne
  | failed hkind => cases hread
  | @piece supply s data ending h ih =>
    rw [read] at hread
    split at hread
    · next hempty =>
      rw [List.isEmpty_iff] at hempty
      subst hempty
      exact ih hread
    · cases hread
      refine ⟨supply.drop want ++ data, ?_, .piece h⟩
      rw [← List.append_assoc, List.take_append_drop]
  | interrupted hkind h ih => cases hread

/-- A read finds the end of the stream only after all bytes. -/
theorem of_read_nil (h : s.Delivers data ending) (hwant : 0 < want)
    (hread : s.read want = (.ok [], rest)) : data = [] ∧ ending = none := by
  induction h with
  | exhausted => exact ⟨rfl, rfl⟩
  | ended => exact ⟨rfl, rfl⟩
  | failed hkind => cases hread
  | @piece supply s data ending h ih =>
    rw [read] at hread
    split at hread
    · next hempty =>
      rw [List.isEmpty_iff] at hempty
      subst hempty
      exact ih hread
    · next hne =>
      rw [Prod.mk.injEq, Except.ok.injEq, List.take_eq_nil_iff] at hread
      rcases hread.1 with h0 | h0
      · omega
      · exact absurd (List.isEmpty_iff.mpr h0) hne
  | interrupted hkind h ih => cases hread

/-- An interrupted read loses nothing. -/
theorem of_read_interrupted (h : s.Delivers data ending)
    (hread : s.read want = (.error e, rest)) (hkind : e.kind = .interrupted) :
    rest.Delivers data ending := by
  induction h with
  | exhausted => cases hread
  | ended => cases hread
  | failed hkind' =>
    cases hread
    exact absurd hkind hkind'
  | piece h ih =>
    rw [read] at hread
    split at hread
    · next hempty =>
      rw [List.isEmpty_iff] at hempty
      subst hempty
      exact ih hread
    · cases hread
  | interrupted hkind h ih =>
    cases hread
    exact h

/-- A read meets the error that ends the stream only after all bytes. -/
theorem of_read_error (h : s.Delivers data ending)
    (hread : s.read want = (.error e, rest)) (hkind : e.kind ≠ .interrupted) :
    data = [] ∧ ending = some e := by
  induction h with
  | exhausted => cases hread
  | ended => cases hread
  | failed hkind' =>
    cases hread
    exact ⟨rfl, rfl⟩
  | piece h ih =>
    rw [read] at hread
    split at hread
    · next hempty =>
      rw [List.isEmpty_iff] at hempty
      subst hempty
      exact ih hread
    · cases hread
  | interrupted hkind' h ih =>
    cases hread
    exact absurd hkind' hkind

end Delivers

end Source

/-! ## Sinks -/

/-- What a write accepts stands first in what it was offered. -/
theorem WriteStep.append_drop_of_result {step : WriteStep}
    {offered accepted : Bytes} (h : step.result offered = .ok accepted) :
    accepted ++ offered.drop accepted.length = offered := by
  cases step with
  | accept limit =>
    cases h
    rw [List.length_take]
    rcases Nat.le_total limit offered.length with hle | hle
    · rw [Nat.min_eq_left hle, List.take_append_drop]
    · rw [Nat.min_eq_right hle, List.take_of_length_le hle, List.drop_length,
        List.append_nil]
  | acceptAll =>
    cases h
    rw [List.drop_length, List.append_nil]
  | fail e => cases h

/-- A sink that refuses nothing: every write goes on, and it can be flushed. -/
structure Sink.Willing (sink : Sink) : Prop where
  writes : ∀ w ∈ sink.writes, w.goesOn = true
  flush : sink.flushError = none

namespace Sink.Writes

variable {writes rest : List WriteStep} {bytes : Bytes} {events : Transcript}
  {outcome : Except IoError (List WriteStep)}

/-- Writing reads nothing. -/
theorem supplied (h : Writes writes bytes events outcome) :
    events.supplied = [] := by
  induction h with
  | done => rfl
  | all hne => rfl
  | some hne hresult hsome h ih => exact ih
  | none hne hresult => rfl
  | interrupted hne hresult hkind h ih => exact ih
  | failed hne hresult hkind => rfl

/-- Bytes that have been written were accepted, each once and in order. -/
theorem accepted (h : Writes writes bytes events outcome)
    (hok : outcome = .ok rest) : events.accepted = bytes := by
  induction h with
  | done => rfl
  | all hne => exact List.append_nil _
  | @some step writes bytes accepted events outcome hne hresult hsome h ih =>
    change accepted ++ events.accepted = bytes
    rw [ih hok, WriteStep.append_drop_of_result hresult]
  | none hne hresult => cases hok
  | interrupted hne hresult hkind h ih => exact ih hok
  | failed hne hresult hkind => cases hok

/-- A sink that refuses nothing takes everything, and refuses nothing later. -/
theorem ok_of_goesOn (h : Writes writes bytes events outcome)
    (hwrites : ∀ w ∈ writes, w.goesOn = true) :
    ∃ rest, outcome = .ok rest ∧ ∀ w ∈ rest, w.goesOn = true := by
  induction h with
  | done => exact ⟨_, rfl, hwrites⟩
  | all hne => exact ⟨[], rfl, by simp⟩
  | some hne hresult hsome h ih =>
    exact ih fun w hw => hwrites w (List.mem_cons_of_mem _ hw)
  | @none step writes bytes hne hresult =>
    -- Only a write with limit zero accepts nothing, and that does not go on.
    have hstep := hwrites step List.mem_cons_self
    cases step with
    | accept limit =>
      rw [WriteStep.result, Except.ok.injEq, List.take_eq_nil_iff] at hresult
      rcases hresult with h0 | h0
      · simp [WriteStep.goesOn, h0] at hstep
      · exact absurd h0 hne
    | acceptAll =>
      cases hresult
      exact absurd rfl hne
    | fail e => cases hresult
  | interrupted hne hresult hkind h ih =>
    exact ih fun w hw => hwrites w (List.mem_cons_of_mem _ hw)
  | @failed step writes bytes e hne hresult hkind =>
    have hstep := hwrites step List.mem_cons_self
    cases step with
    | accept limit => cases hresult
    | acceptAll => cases hresult
    | fail e' =>
      cases hresult
      simp [WriteStep.goesOn, hkind] at hstep

end Sink.Writes

end HttpExchange
