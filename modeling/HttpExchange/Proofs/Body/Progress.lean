import HttpExchange.Proofs.Body.Delivery
import HttpExchange.Proofs.Body.Runs
import Mathlib.Data.List.Chain

/-! What the observer of a transfer is told, and that it is the truth. Every
notice of progress counts the bytes that the sink has accepted by then; the
counts grow by no more than a buffer and never pass the declared length; the last
of them is the count that the result states; and word that the transfer is
finished comes once, at the end, exactly when the body is whole. Nothing is
assumed of source and sink. `Transfer.Tells` is the invariant: it says all this
of a transfer that goes on with `count` bytes written. -/

namespace HttpExchange

/-! ## Notices of progress -/

namespace Transcript

/-- Each notice of progress counts the bytes that the sink has accepted by then;
`count` were accepted before the transcript begins. -/
def Counted (count : Nat) (events : Transcript) : Prop :=
  ∀ before told total later,
    events = before ++ .notified (.progressed told total) :: later →
      told = count + (accepted before).length

theorem counted_singleton (count : Nat) (total : Option Nat) :
    Counted count [.notified (.progressed count total)] := by
  intro before told total' later h
  obtain ⟨rfl, h⟩ | ⟨rest, -, h⟩ := List.cons_eq_append_iff.mp h
  · cases h
    rfl
  · simp at h

/-- A transcript is counted if nothing in it is a notice of progress. -/
theorem counted_of_not_mem {events : Transcript} (count : Nat)
    (h : ∀ told total, .progressed told total ∉ notifications events) :
    Counted count events := by
  rintro before told total later rfl
  refine absurd ?_ (h told total)
  rw [notifications_append]
  exact List.mem_append_right _ List.mem_cons_self

/-- What is accepted in a transcript adds to the counts of what follows. -/
theorem Counted.append {count : Nat} {events more : Transcript}
    (h : Counted count events)
    (hmore : Counted (count + (accepted events).length) more) :
    Counted count (events ++ more) := by
  intro before told total later hsplit
  rw [List.append_eq_append_iff] at hsplit
  obtain ⟨middle, rfl, hsplit⟩ | ⟨middle, hsplit, hmiddle⟩ := hsplit
  -- The notice is among the later events.
  · rw [hmore middle told total later hsplit, accepted_append,
      List.length_append, Nat.add_assoc]
  · cases middle with
    | nil =>
      rw [hmore [] told total later hmiddle.symm, hsplit]
      simp
    | cons event rest =>
      cases hmiddle
      exact h before told total rest hsplit

end Transcript

/-- Writing tells the observer nothing. -/
theorem Sink.Writes.notifications {writes : List WriteStep} {bytes : Bytes}
    {events : Transcript} {outcome : Except IoError (List WriteStep)}
    (h : Sink.Writes writes bytes events outcome) :
    events.notifications = [] := by
  induction h with
  | done => rfl
  | all hne => rfl
  | some hne hresult hsome h ih => exact ih
  | none hne hresult => rfl
  | interrupted hne hresult hkind h ih => exact ih
  | failed hne hresult hkind => rfl

/-! ## Results -/

namespace TransferRun

/-- The count that the result of a run states. A failure of the source or the
sink states none. -/
def count? (run : TransferRun) : Option Nat :=
  match run.result with
  | .ok received => some received.bytes
  | .error (.endedEarly count _) => some count
  | .error _ => none

/-- What is said at the end of a run: that it is finished if the body is whole,
and otherwise nothing. -/
def farewell (run : TransferRun) : List Notification :=
  match run.result with
  | .ok (.complete _) => [.finished]
  | _ => []

theorem progressed_not_mem_farewell (run : TransferRun) (told : Nat)
    (total : Option Nat) : .progressed told total ∉ run.farewell := by
  rw [farewell]
  split
  · simp
  · exact List.not_mem_nil

end TransferRun

namespace Transfer

/-- What a transfer that goes on with `count` bytes written tells: progress with
these counts, and then the farewell. -/
structure Tells (t : Transfer) (count : Nat) (counts : List Nat)
    (run : TransferRun) : Prop where
  told : run.events.notifications =
    counts.map (.progressed · t.total) ++ run.farewell
  /-- Each count is more than the one before it, by no more than a buffer. -/
  growing : (count :: counts).IsChain fun a b => a < b ∧ b ≤ a + t.capacity
  bounded : ∀ c ∈ counts, ∀ total, t.total = some total → c ≤ total
  counted : run.events.Counted count
  /-- The last count is the one that the result states, and that of all bytes
  that the sink accepted. -/
  last : ∀ n, run.count? = some n →
    counts.getLastD count = n ∧ count + run.events.accepted.length = n

variable {t : Transfer} {count : Nat} {counts : List Nat} {sink : Sink}
  {source : Source} {run : TransferRun}

/-- Nothing but the farewell is told where nothing more is written. -/
theorem tells_nil (htold : run.events.notifications = run.farewell)
    (hlast : ∀ n, run.count? = some n →
      n = count ∧ run.events.accepted = []) : t.Tells count [] run where
  told := htold
  growing := .singleton _
  bounded _ hmem := absurd hmem List.not_mem_nil
  counted := by
    apply Transcript.counted_of_not_mem
    rw [htold]
    exact run.progressed_not_mem_farewell
  last n hn := by
    obtain ⟨rfl, haccepted⟩ := hlast n hn
    rw [haccepted]
    exact ⟨rfl, rfl⟩

/-- A read tells nothing. -/
theorem Tells.after_read (h : t.Tells count counts run) {want : Nat}
    {result : Except IoError Bytes} :
    t.Tells count counts (run.after [.read want result]) where
  told := h.told
  growing := h.growing
  bounded := h.bounded
  counted := by
    apply Transcript.Counted.append
    · exact Transcript.counted_of_not_mem _ fun _ _ => List.not_mem_nil
    · exact h.counted
  last := h.last

/-- A buffer that has been read and written is one notice of progress, which
comes before all the others. -/
theorem Tells.after_copied {bytes : Bytes} {want : Nat} {events : Transcript}
    (h : t.Tells (count + bytes.length) counts run)
    (hpos : 0 < bytes.length) (hbuffer : bytes.length ≤ t.capacity)
    (htotal : ∀ total, t.total = some total → count + bytes.length ≤ total)
    (haccepted : events.accepted = bytes) (hsilent : events.notifications = []) :
    t.Tells count ((count + bytes.length) :: counts)
      (run.after (.read want (.ok bytes) :: events ++
        [.notified (.progressed (count + bytes.length) t.total)])) := by
  have hread : Transcript.accepted (.read want (.ok bytes) :: events) = bytes :=
    haccepted
  have hquiet : Transcript.notifications (.read want (.ok bytes) :: events) =
    [] := hsilent
  have hbuffered : Transcript.accepted (.read want (.ok bytes) :: events ++
      [.notified (.progressed (count + bytes.length) t.total)]) = bytes := by
    rw [Transcript.accepted_append, hread]
    exact List.append_nil _
  refine ⟨?_, .cons_cons ⟨by omega, by omega⟩ h.growing, ?_, ?_, ?_⟩
  · rw [TransferRun.events_after, Transcript.notifications_append,
      Transcript.notifications_append, hquiet, h.told]
    rfl
  · intro c hmem total heq
    rcases List.mem_cons.mp hmem with rfl | hmem
    · exact htotal total heq
    · exact h.bounded c hmem total heq
  · apply Transcript.Counted.append
    -- The notice comes when the whole buffer has been written.
    · apply Transcript.Counted.append
      · apply Transcript.counted_of_not_mem
        rw [hquiet]
        exact fun _ _ => List.not_mem_nil
      · rw [hread]
        exact Transcript.counted_singleton _ _
    · rw [hbuffered]
      exact h.counted
  · intro n hn
    obtain ⟨hlast, hcount⟩ := h.last n hn
    rw [List.getLastD_cons, TransferRun.events_after, Transcript.accepted_append,
      hbuffered, List.length_append, ← Nat.add_assoc]
    exact ⟨hlast, hcount⟩

/-- At the end of a transfer nothing is told but the farewell. -/
theorem Ends.tells (h : t.Ends count sink source run) : t.Tells count [] run := by
  cases h with
  | complete hflush => exact tells_nil rfl (by rintro n ⟨⟩; exact ⟨rfl, rfl⟩)
  | cutShort haccept hflush =>
    exact tells_nil rfl (by rintro n ⟨⟩; exact ⟨rfl, rfl⟩)
  | refused hrefuse => exact tells_nil rfl (by rintro n ⟨⟩; exact ⟨rfl, rfl⟩)
  | notFlushed hflush => exact tells_nil rfl nofun

/-- Every way of a transfer tells the truth. -/
theorem Runs.tells (h : t.Runs count sink source run) :
    ∃ counts, t.Tells count counts run := by
  induction h with
  | reached hwant => exact ⟨[], (t.ends_finish ..).tells⟩
  | ended hwant hread =>
    exact ⟨[], (t.ends_endOfStream ..).tells.after_read⟩
  | refused hwant hread hne hwrite =>
    have hsilent := (Sink.writes_of_writeAll hwrite).notifications
    exact ⟨[], tells_nil hsilent nofun⟩
  | @copied count sink source want bytes rest events writes run hwant hread hne
      hwrite hrun ih =>
    obtain ⟨counts, hcounts⟩ := ih
    obtain ⟨-, hbuffer, htotal⟩ := want?_eq_some hwant
    have hways := Sink.writes_of_writeAll hwrite
    have hread := Source.length_le_of_read hread
    refine ⟨_, hcounts.after_copied (List.length_pos_iff.mpr hne)
      (hread.trans hbuffer) ?_ (hways.accepted rfl) hways.notifications⟩
    intro total heq
    have := htotal total heq
    omega
  | interrupted hwant hread hkind hrun ih =>
    obtain ⟨counts, hcounts⟩ := ih
    exact ⟨counts, hcounts.after_read⟩
  | cutShort hwant hread hkind hearly =>
    exact ⟨[], (t.ends_endEarly ..).tells.after_read⟩
  | failed hwant hread hkind hearly => exact ⟨[], tells_nil rfl nofun⟩

/-- **Progress is true.** The observer of a transfer hears that it has started,
before anything else happens; then of progress, with the counts of the bytes that
the sink has accepted each time, which grow by no more than a buffer and do not
pass the declared length; and then, exactly if the body is whole, that the
transfer is finished. If the result states a count, it is the last of these, or
zero if there is none. -/
theorem run_progress_true (t : Transfer) (source : Source) (sink : Sink) :
    ∃ counts,
      (t.run source sink).events.head? = some (.notified .started) ∧
      (t.run source sink).events.notifications =
        .started :: counts.map (.progressed · t.total) ++
          (t.run source sink).farewell ∧
      (0 :: counts).IsChain (fun a b => a < b ∧ b ≤ a + max t.bufferSize 1) ∧
      (∀ c ∈ counts, ∀ total, t.total = some total → c ≤ total) ∧
      (t.run source sink).events.Counted 0 ∧
      ∀ n, (t.run source sink).count? = some n →
        counts.getLastD 0 = n ∧
          (t.run source sink).events.accepted.length = n := by
  obtain ⟨counts, h⟩ := (runs_runFrom t 0 sink source).tells
  refine ⟨counts, rfl, ?_, ?_, h.bounded, ?_, ?_⟩
  · exact congrArg (.started :: ·) h.told
  · rw [Nat.max_comm]
    exact h.growing
  · apply Transcript.Counted.append
    · exact Transcript.counted_of_not_mem _ fun _ _ => by
        simp [Transcript.notifications, TransferEvent.notification?]
    · exact h.counted
  · intro n hn
    obtain ⟨hlast, hcount⟩ := h.last n hn
    exact ⟨hlast, (Nat.zero_add _).symm.trans hcount⟩

/-- Three bytes of five, read into a buffer of two, by a sink that takes one byte
of the first write. -/
theorem run_progress_true_three_of_five :
    let run := ({ total := some 5, bufferSize := 2 } : Transfer).run
      [.piece [1, 2, 3]] { writes := [.accept 1] }
    run.count? = some 3 ∧
      ∃ counts : List Nat, run.events.notifications =
          .started :: counts.map (.progressed · (some 5)) ∧
        counts.getLastD 0 = 3 ∧ ∀ c ∈ counts, c ≤ 5 := by
  intro run
  have hcount : run.count? = some 3 := by cbv
  have hfarewell : run.farewell = [] := by cbv
  obtain ⟨counts, -, htold, -, hbounded, -, hlast⟩ := run_progress_true
    { total := some 5, bufferSize := 2 } [.piece [1, 2, 3]]
    { writes := [.accept 1] }
  change run.events.notifications = _ ++ run.farewell at htold
  rw [hfarewell, List.append_nil] at htold
  exact ⟨hcount, counts, htold, (hlast 3 hcount).1,
    fun c hmem => hbounded c hmem 5 rfl⟩

end Transfer

end HttpExchange
