import HttpExchange.Proofs.Body.Delivery
import HttpExchange.Proofs.Body.Runs

/-! What a transfer comes to. Into a sink that refuses nothing it depends on the
bytes that the source delivers and on how the stream ends, and on nothing else:
neither on the pieces in which the bytes arrive, nor on interruptions, nor on
the size of the buffer. If the declared length is among the bytes, exactly so
many are read and written and the transfer is complete; else all are written,
and `verdict` is the result. -/

namespace HttpExchange

namespace Transcript

/-- Nothing is written and nothing is read. -/
def Idle (events : Transcript) : Prop :=
  events.accepted = [] ∧ events.supplied = []

end Transcript

namespace Transfer

/-! ## The verdict -/

/-- The result for a body that ended early after `count` bytes. -/
def earlyVerdict (t : Transfer) (count : Nat) (cause : IoError) :
    Except BodyError Received :=
  match t.earlyEnd with
  | .refuse => .error (.endedEarly count cause)
  | .accept => .ok (.cutShort count)

/-- The result for a stream that ended after `count` bytes, by itself or with
an error, when the declared length has not been reached. -/
def verdict (t : Transfer) (count : Nat) :
    Option IoError → Except BodyError Received
  | none =>
    match t.total with
    | none => .ok (.complete count)
    | some total => t.earlyVerdict count (missingRest count total)
  | some e =>
    if e.saysEarlyEnd then t.earlyVerdict count e else .error (.io e)

variable {t : Transfer} {count : Nat} {sink : Sink} {source : Source}
  {run : TransferRun} {data : Bytes} {ending : Option IoError}

/-! ## The ends of a transfer -/

theorem finish_result (h : sink.flushError = none) :
    (finish count sink source).result = .ok (.complete count) := by
  simp [finish, Sink.flush, h]

theorem finish_source : (finish count sink source).source = source := by
  rw [finish]
  cases sink.flush <;> rfl

theorem endEarly_result (h : sink.flushError = none) (cause : IoError) :
    (t.endEarly count cause sink source).result =
      t.earlyVerdict count cause := by
  rw [endEarly, earlyVerdict]
  cases t.earlyEnd with
  | refuse => rfl
  | accept => simp [Sink.flush, h]

theorem endOfStream_result (h : sink.flushError = none) :
    (t.endOfStream count sink source).result = t.verdict count none := by
  rw [endOfStream, verdict]
  cases t.total with
  | none => exact finish_result h
  | some total => exact endEarly_result h _

/-- Nothing is written or read at the end. -/
theorem Ends.idle (h : t.Ends count sink source run) : run.events.Idle := by
  cases h <;> exact ⟨rfl, rfl⟩

/-! ## The loop -/

/-- A transfer that asks for more has not reached the declared length. -/
theorem lt_of_want? {want total : Nat} (hwant : t.want? count = some want)
    (htotal : t.total = some total) : count < total := by
  obtain ⟨hpos, -, hle⟩ := want?_eq_some hwant
  have := hle total htotal
  omega

/-- When the declared length is among the bytes, the transfer stops there. -/
theorem Runs.of_enough {total : Nat} (h : t.Runs count sink source run)
    (hsink : sink.Willing) (hsource : source.Delivers data ending)
    (htotal : t.total = some total) (hcount : count ≤ total)
    (henough : total ≤ count + data.length) :
    run.result = .ok (.complete total) ∧
      run.events.accepted = data.take (total - count) ∧
      run.events.supplied = data.take (total - count) ∧
      run.source.Delivers (data.drop (total - count)) ending := by
  induction h generalizing data with
  | @reached count sink source hwant =>
    obtain ⟨total', htotal', hle⟩ := want?_eq_none_iff.mp hwant
    rw [htotal] at htotal'
    cases htotal'
    -- Both bounds on the count meet here: it never passes the total.
    obtain rfl : count = total := by omega
    rw [Nat.sub_self, List.take_zero, List.drop_zero, finish_source]
    have hidle := (t.ends_finish count sink source).idle
    exact ⟨finish_result hsink.flush, hidle.1, hidle.2, hsource⟩
  | ended hwant hread =>
    have hlt := lt_of_want? hwant htotal
    obtain ⟨rfl, -⟩ := hsource.of_read_nil (want?_eq_some hwant).1 hread
    rw [List.length_nil] at henough
    omega
  | refused hwant hread hne hwrite =>
    obtain ⟨rest, hok, -⟩ :=
      (Sink.writes_of_writeAll hwrite).ok_of_goesOn hsink.writes
    cases hok
  | @copied count sink source want bytes rest events writes run hwant hread hne
      hwrite hrun ih =>
    obtain ⟨later, rfl, hlater⟩ := hsource.of_read_bytes hread hne
    have hways := Sink.writes_of_writeAll hwrite
    obtain ⟨rest', hok, hgoes⟩ := hways.ok_of_goesOn hsink.writes
    cases hok
    have hlen := Source.length_le_of_read hread
    have hfit := (want?_eq_some hwant).2.2 total htotal
    rw [List.length_append] at henough
    obtain ⟨hres, hacc, hsup, hleft⟩ :=
      ih ⟨hgoes, hsink.flush⟩ hlater (by omega) (by omega)
    -- What is still wanted is what was read and what is wanted after that.
    have htake : total - count = bytes.length + (total - (count + bytes.length))
        := by omega
    refine ⟨hres, ?_, ?_, ?_⟩
    · rw [htake, List.take_length_add_append]
      simp [TransferEvent.accepted, hways.accepted rfl, hacc]
    · rw [htake, List.take_length_add_append]
      simp [TransferEvent.supplied, hways.supplied, hsup]
    · rw [htake, List.drop_length_add_append]
      exact hleft
  | interrupted hwant hread hkind hrun ih =>
    have hrest := hsource.of_read_interrupted hread hkind
    exact ih hsink hrest hcount henough
  | cutShort hwant hread hkind hearly =>
    have hlt := lt_of_want? hwant htotal
    obtain ⟨rfl, -⟩ := hsource.of_read_error hread hkind
    rw [List.length_nil] at henough
    omega
  | failed hwant hread hkind hearly =>
    have hlt := lt_of_want? hwant htotal
    obtain ⟨rfl, -⟩ := hsource.of_read_error hread hkind
    rw [List.length_nil] at henough
    omega

/-- When there is no declared length among the bytes, the transfer writes all
of them and ends as the stream does. -/
theorem Runs.of_short (h : t.Runs count sink source run)
    (hsink : sink.Willing) (hsource : source.Delivers data ending)
    (hshort : ∀ total, t.total = some total → count + data.length < total) :
    run.result = t.verdict (count + data.length) ending ∧
      run.events.accepted = data ∧ run.events.supplied = data := by
  induction h generalizing data with
  | reached hwant =>
    obtain ⟨total, htotal, hle⟩ := want?_eq_none_iff.mp hwant
    have := hshort total htotal
    omega
  | ended hwant hread =>
    obtain ⟨rfl, rfl⟩ := hsource.of_read_nil (want?_eq_some hwant).1 hread
    exact ⟨endOfStream_result hsink.flush, (t.ends_endOfStream ..).idle⟩
  | refused hwant hread hne hwrite =>
    obtain ⟨rest, hok, -⟩ :=
      (Sink.writes_of_writeAll hwrite).ok_of_goesOn hsink.writes
    cases hok
  | @copied count sink source want bytes rest events writes run hwant hread hne
      hwrite hrun ih =>
    obtain ⟨later, rfl, hlater⟩ := hsource.of_read_bytes hread hne
    have hways := Sink.writes_of_writeAll hwrite
    obtain ⟨rest', hok, hgoes⟩ := hways.ok_of_goesOn hsink.writes
    cases hok
    rw [List.length_append, ← Nat.add_assoc] at hshort ⊢
    obtain ⟨hres, hacc, hsup⟩ := ih ⟨hgoes, hsink.flush⟩ hlater hshort
    refine ⟨hres, ?_, ?_⟩
    · simp [TransferEvent.accepted, hways.accepted rfl, hacc]
    · simp [TransferEvent.supplied, hways.supplied, hsup]
  | interrupted hwant hread hkind hrun ih =>
    exact ih hsink (hsource.of_read_interrupted hread hkind) hshort
  | cutShort hwant hread hkind hearly =>
    obtain ⟨rfl, rfl⟩ := hsource.of_read_error hread hkind
    refine ⟨?_, (t.ends_endEarly ..).idle⟩
    rw [TransferRun.result_after, endEarly_result hsink.flush, verdict,
      if_pos hearly]
    rfl
  | failed hwant hread hkind hearly =>
    obtain ⟨rfl, rfl⟩ := hsource.of_read_error hread hkind
    refine ⟨?_, rfl, rfl⟩
    rw [verdict, hearly]
    rfl

/-- **The closed form of a transfer.** Whatever the pieces, the interruptions
and the buffer, a transfer with the declared length among the bytes is complete
at that length, and has taken no byte after it from the source; any other has
written all bytes, and the way the stream ends decides. -/
theorem run_closed_form (hsource : source.Delivers data ending)
    (hsink : sink.Willing) :
    (∀ total, t.total = some total → total ≤ data.length →
      (t.run source sink).result = .ok (.complete total) ∧
      (t.run source sink).events.accepted = data.take total ∧
      (t.run source sink).events.supplied = data.take total ∧
      (t.run source sink).source.Delivers (data.drop total) ending) ∧
    ((∀ total, t.total = some total → data.length < total) →
      (t.run source sink).result = t.verdict data.length ending ∧
      (t.run source sink).events.accepted = data ∧
      (t.run source sink).events.supplied = data) := by
  have hruns := runs_runFrom t 0 sink source
  constructor
  · intro total htotal henough
    exact hruns.of_enough hsink hsource htotal (Nat.zero_le _) (by omega)
  · intro hshort
    have h := hruns.of_short hsink hsource (by simpa using hshort)
    rw [Nat.zero_add] at h
    exact h

/-- Three of five bytes are declared; the buffer holds one byte, and both sides
are interrupted on the way. -/
theorem run_closed_form_three_of_five :
    (Source.Delivers
        [.piece [1, 2], .fail (.bare .interrupted), .piece [3, 4, 5], .eof]
        [1, 2, 3, 4, 5] none ∧
      Sink.Willing { writes := [.fail (.bare .interrupted), .accept 1] }) ∧
    (({ total := some 3, bufferSize := 0 } : Transfer).run
        [.piece [1, 2], .fail (.bare .interrupted), .piece [3, 4, 5], .eof]
        { writes := [.fail (.bare .interrupted), .accept 1] }).events.accepted =
      [1, 2, 3] := by
  have hsource : Source.Delivers
      [.piece [1, 2], .fail (.bare .interrupted), .piece [3, 4, 5], .eof]
      [1, 2, 3, 4, 5] none := .piece (.interrupted rfl (.piece .ended))
  have hsink : Sink.Willing
      { writes := [.fail (.bare .interrupted), .accept 1] } :=
    ⟨by decide, rfl⟩
  exact ⟨⟨hsource, hsink⟩,
    ((run_closed_form hsource hsink).1 3 rfl (by decide)).2.1⟩

end Transfer

end HttpExchange
