import HttpExchange.Proofs.Body.Outcome
import HttpExchange.Proofs.Download.Destination
import HttpExchange.Proofs.Download.Execution

/-! Which operations a download performs. `Response.KeepsProtocol` says it of a
download whose destination is known: the temporary file is created, and then it
is either moved into place or removed, which is decided by the transfer and by
nothing else; and the store is asked to do so, in the state that the transfer has
left, and the answer and the last state are its own. `save_protocol` is the whole
of it, for every file store, whatever it answers. -/

namespace HttpExchange

variable {σ : Type} [FileStore σ]

/-! ## The events of a download -/

/-- The events of a download to `target` whose temporary file is `temporary`:
`copied` is what happens between the creation of that file and the last
operation. -/
def downloadEvents (target : Path) (isDirectory : Bool) (temporary : Path)
    (created : Bool) (copied : Transcript) (last : DownloadEvent) :
    List DownloadEvent :=
  .askedDirectory target isDirectory :: .created temporary created ::
    copied.map .transferred ++ [last]

section Events

variable {target temporary : Path} {isDirectory created : Bool}
  {copied : Transcript} {last : DownloadEvent}

theorem getLast?_downloadEvents :
    (downloadEvents target isDirectory temporary created copied last).getLast? =
      some last := by
  rw [downloadEvents, List.getLast?_append]
  rfl

theorem filter_isOperation_transferred (copied : Transcript) :
    (copied.map DownloadEvent.transferred).filter DownloadEvent.isOperation =
      [] := by
  rw [List.filter_eq_nil_iff]
  intro event hmem
  obtain ⟨x, -, rfl⟩ := List.mem_map.mp hmem
  exact Bool.false_ne_true

theorem filter_isOperation_downloadEvents (hlast : last.isOperation = true) :
    (downloadEvents target isDirectory temporary created copied last).filter
        DownloadEvent.isOperation =
      [.askedDirectory target isDirectory, .created temporary created, last] := by
  rw [downloadEvents, List.filter_append, List.filter_cons_of_pos rfl,
    List.filter_cons_of_pos rfl, filter_isOperation_transferred,
    List.filter_cons_of_pos hlast]
  rfl

theorem renamed_mem_downloadEvents {source final : Path}
    {overwrite ok : Bool} :
    .renamed source final overwrite ok ∈ downloadEvents target isDirectory
        temporary created copied last ↔
      last = .renamed source final overwrite ok := by
  simp [downloadEvents, eq_comm]

theorem removed_mem_downloadEvents {path : Path} {ok : Bool} :
    .removed path ok ∈ downloadEvents target isDirectory temporary created
        copied last ↔
      last = .removed path ok := by
  simp [downloadEvents, eq_comm]

end Events

/-! ## The protocol -/

namespace Response

/-- What keeps a download to `d` from moving its temporary file: the file cannot
be created, and nothing is copied, or the transfer into it fails after it has
copied something. -/
inductive FailsWith (r : Response) (earlyEnd : EarlyEnd) (d : Destination)
    (state : σ) : Transcript → BodyError → Prop where
  | notCreated {e}
      (hcreate : (FileStore.create state d.temporary).1 = .error e) :
      FailsWith r earlyEnd d state [] (.io e)
  | notCopied {sink error}
      (hcreate : (FileStore.create state d.temporary).1 = .ok sink)
      (hresult : (r.deliverAndClose earlyEnd sink).result = .error error) :
      FailsWith r earlyEnd d state (r.deliverAndClose earlyEnd sink).events error

/-- What every download to `target` does whose destination `d` is known. -/
structure KeepsProtocol (r : Response) (earlyEnd : EarlyEnd) (target : Path)
    (d : Destination) (state : σ) (run : DownloadRun σ) : Prop where
  /-- The store does what is recorded, step by step. -/
  performed : Performs d.temporary state run.steps run.state
  /-- There are three operations, and nothing happens after the last of them,
  which moves the temporary file into place or removes it. -/
  operations : ∃ last, run.events.getLast? = some last ∧
    run.operations =
      [.askedDirectory target (FileStore.isDirectory state target),
        .created d.temporary (FileStore.create state d.temporary).1.isOk,
        last] ∧
    ((∃ ok, last = .renamed d.temporary d.final true ok) ∨
      ∃ ok, last = .removed d.temporary ok)
  /-- The file is moved exactly when it was created and the transfer into it has
  an outcome. -/
  renamed_iff : (∃ ok, .renamed d.temporary d.final true ok ∈ run.events) ↔
    ∃ sink received, (FileStore.create state d.temporary).1 = .ok sink ∧
      (r.deliverAndClose earlyEnd sink).result = .ok received
  /-- Before the file is moved, all that the outcome counts has been written and
  flushed. -/
  flushed : ∀ ok, .renamed d.temporary d.final true ok ∈ run.events →
    ∃ sink received, (FileStore.create state d.temporary).1 = .ok sink ∧
      (r.deliverAndClose earlyEnd sink).result = .ok received ∧
      run.events = downloadEvents target (FileStore.isDirectory state target)
        d.temporary true (r.deliverAndClose earlyEnd sink).events
        (.renamed d.temporary d.final true ok) ∧
      (r.deliverAndClose earlyEnd sink).events.FlushedAfter received.bytes ∧
      (r.transfer earlyEnd).Allows received.bytes received
  /-- The store moves the file in the state that the transfer has left. Its answer
  decides the result, and the state after it is the last one. -/
  renamed : ∀ ok, .renamed d.temporary d.final true ok ∈ run.events →
    ∃ written, run.LeadsTo d.temporary state written
        (.renamed d.temporary d.final true ok) ∧
      ((FileStore.rename written d.temporary d.final true =
            (.ok (), run.state) ∧
          ok = true ∧ run.result = .ok d.final) ∨
        ∃ e, FileStore.rename written d.temporary d.final true =
            (.error e, run.state) ∧
          ok = false ∧ run.result = .error (.notMoved d.temporary d.final e))
  /-- The download succeeds exactly when the file has been moved. -/
  ok_iff : ∀ path, run.result = .ok path ↔
    path = d.final ∧ .renamed d.temporary d.final true true ∈ run.events
  /-- That the file could not be moved is reported exactly when that was tried
  and failed. -/
  notMoved_iff : ∀ source final,
    (∃ e, run.result = .error (.notMoved source final e)) ↔
      source = d.temporary ∧ final = d.final ∧
        .renamed d.temporary d.final true false ∈ run.events
  /-- The store removes the file in the state that the creation or the transfer
  has left, and the state after that is the last one. Whether or not it succeeds,
  the error is the one with which the creation or the transfer failed. -/
  removed : ∀ ok, .removed d.temporary ok ∈ run.events →
    ∃ copied error written answer, r.FailsWith earlyEnd d state copied error ∧
      run.result = .error error ∧
      run.events = downloadEvents target (FileStore.isDirectory state target)
        d.temporary (FileStore.create state d.temporary).1.isOk copied
        (.removed d.temporary ok) ∧
      run.LeadsTo d.temporary state written (.removed d.temporary ok) ∧
      FileStore.remove written d.temporary = (answer, run.state) ∧
      ok = answer.isOk

variable {r : Response} {earlyEnd : EarlyEnd} {target : Path}
  {d : Destination} {state : σ} {run : DownloadRun σ}

/-- Neither the creation nor the transfer fails as a file does that cannot be
moved. -/
theorem FailsWith.ne_notMoved {copied : Transcript} {error : BodyError}
    {source final : Path} {e : IoError}
    (h : r.FailsWith earlyEnd d state copied error) :
    error ≠ .notMoved source final e := by
  rintro rfl
  cases h with
  | notCopied hcreate hresult =>
    exact Transfer.not_raises_notMoved (Transfer.runAndClose_raises hresult)

/-- The events of a download that goes on after its temporary file was
created. -/
theorem events_of_steps {isDirectory : Bool} {copied : Transcript}
    {created written last : σ} {steps : List (DownloadStep σ)}
    {result : Except BodyError Path} {ending : DownloadEvent} {body : Source}
    (hsteps : copied.steps d.temporary created = (steps, written)) :
    DownloadRun.events
        (DownloadRun.after [⟨.askedDirectory target isDirectory, state⟩]
          ⟨result, ⟨.created d.temporary true, created⟩ :: steps ++
            [⟨ending, last⟩], last, body⟩) =
      downloadEvents target isDirectory d.temporary true copied ending := by
  have hcopied := Transcript.map_event_of_steps hsteps
  simp [DownloadRun.events, DownloadRun.after, downloadEvents, hcopied]

/-- The operations of a download, by the one that ends it. -/
theorem operations_of_events {created : Bool} {copied : Transcript}
    {last : DownloadEvent}
    (hevents : run.events = downloadEvents target
      (FileStore.isDirectory state target) d.temporary created copied last)
    (hlast : (∃ ok, last = .renamed d.temporary d.final true ok) ∨
      ∃ ok, last = .removed d.temporary ok) :
    ∃ last, run.events.getLast? = some last ∧
      run.operations =
        [.askedDirectory target (FileStore.isDirectory state target),
          .created d.temporary created, last] ∧
      ((∃ ok, last = .renamed d.temporary d.final true ok) ∨
        ∃ ok, last = .removed d.temporary ok) := by
  refine ⟨last, ?_, ?_, hlast⟩
  · rw [hevents, getLast?_downloadEvents]
  · rw [DownloadRun.operations, hevents]
    apply filter_isOperation_downloadEvents
    rcases hlast with ⟨ok, rfl⟩ | ⟨ok, rfl⟩ <;> rfl

/-- A download that removes its temporary file reports why. -/
theorem keepsProtocol_of_removed {written : σ} {removal : Except IoError Unit}
    {copied : Transcript} {error : BodyError}
    (hcause : r.FailsWith earlyEnd d state copied error)
    (hresult : run.result = .error error)
    (hevents : run.events = downloadEvents target
      (FileStore.isDirectory state target) d.temporary
      (FileStore.create state d.temporary).1.isOk copied
      (.removed d.temporary removal.isOk))
    (hwritten : run.LeadsTo d.temporary state written
      (.removed d.temporary removal.isOk))
    (hremove : FileStore.remove written d.temporary = (removal, run.state)) :
    r.KeepsProtocol earlyEnd target d state run where
  performed := hwritten.performs (.removed hremove)
  operations := operations_of_events hevents (.inr ⟨_, rfl⟩)
  renamed_iff := by
    simp only [hevents, renamed_mem_downloadEvents]
    constructor
    · rintro ⟨ok, h⟩
      cases h
    · rintro ⟨sink, received, hcreate, hreceived⟩
      cases hcause with
      | notCreated hfailed =>
        rw [hcreate] at hfailed
        cases hfailed
      | notCopied hcreate' hfailed =>
        rw [hcreate] at hcreate'
        cases hcreate'
        rw [hreceived] at hfailed
        cases hfailed
  flushed := by
    intro ok hmem
    rw [hevents, renamed_mem_downloadEvents] at hmem
    cases hmem
  renamed := by
    intro ok hmem
    rw [hevents, renamed_mem_downloadEvents] at hmem
    cases hmem
  ok_iff := by
    intro path
    rw [hresult, hevents, renamed_mem_downloadEvents]
    constructor
    · intro h
      cases h
    · rintro ⟨-, h⟩
      cases h
  notMoved_iff := by
    intro source final
    rw [hresult, hevents, renamed_mem_downloadEvents]
    constructor
    · rintro ⟨e, h⟩
      exact absurd (Except.error.inj h) hcause.ne_notMoved
    · rintro ⟨-, -, h⟩
      cases h
  removed := by
    intro ok hmem
    rw [hevents, removed_mem_downloadEvents] at hmem
    cases hmem
    exact ⟨copied, error, written, removal, hcause, hresult, hevents, hwritten,
      hremove, rfl⟩

/-- A download that moves its temporary file reports whether that succeeded. -/
theorem keepsProtocol_of_renamed {written : σ} {answer : Except IoError Unit}
    {sink : Sink} {received : Received}
    (hcreate : (FileStore.create state d.temporary).1 = .ok sink)
    (hreceived : (r.deliverAndClose earlyEnd sink).result = .ok received)
    (hevents : run.events = downloadEvents target
      (FileStore.isDirectory state target) d.temporary true
      (r.deliverAndClose earlyEnd sink).events
      (.renamed d.temporary d.final true answer.isOk))
    (hwritten : run.LeadsTo d.temporary state written
      (.renamed d.temporary d.final true answer.isOk))
    (hrename : FileStore.rename written d.temporary d.final true =
      (answer, run.state))
    (hresult : run.result = match answer with
      | .ok () => .ok d.final
      | .error e => .error (.notMoved d.temporary d.final e)) :
    r.KeepsProtocol earlyEnd target d state run where
  performed := hwritten.performs (.renamed hrename)
  operations := by
    rw [hcreate]
    exact operations_of_events hevents (.inl ⟨_, rfl⟩)
  renamed_iff := by
    simp only [hevents, renamed_mem_downloadEvents]
    exact ⟨fun _ => ⟨sink, received, hcreate, hreceived⟩, fun _ => ⟨_, rfl⟩⟩
  flushed := by
    intro ok hmem
    rw [hevents, renamed_mem_downloadEvents] at hmem
    cases hmem
    obtain ⟨hflushed, hallows⟩ := Transfer.runAndClose_flushed hreceived
    exact ⟨sink, received, hcreate, hreceived, hevents, hflushed, hallows⟩
  renamed := by
    intro ok hmem
    rw [hevents, renamed_mem_downloadEvents] at hmem
    cases hmem
    refine ⟨written, hwritten, ?_⟩
    cases answer with
    | ok => exact .inl ⟨hrename, rfl, hresult⟩
    | error e => exact .inr ⟨e, hrename, rfl, hresult⟩
  ok_iff := by
    intro path
    rw [hevents, renamed_mem_downloadEvents, hresult]
    cases answer with
    | ok => simp [Except.isOk, Except.toBool, eq_comm]
    | error e => simp [Except.isOk, Except.toBool]
  notMoved_iff := by
    intro source final
    rw [hevents, renamed_mem_downloadEvents, hresult]
    cases answer with
    | ok => simp [Except.isOk, Except.toBool]
    | error e => simp [Except.isOk, Except.toBool, eq_comm]
  removed := by
    intro ok hmem
    rw [hevents, removed_mem_downloadEvents] at hmem
    cases hmem

/-- Every way of a download keeps the protocol. -/
theorem Saves.keepsProtocol (h : r.Saves earlyEnd d state run) :
    r.KeepsProtocol earlyEnd target d state
      (run.after [⟨.askedDirectory target (FileStore.isDirectory state target),
        state⟩]) := by
  cases h with
  | @notCreated e created removal last hcreate hremove =>
    have hfailed : (FileStore.create state d.temporary).1 = .error e := by
      rw [hcreate]
    refine keepsProtocol_of_removed (.notCreated hfailed) rfl ?_
      (leadsTo_of_notCreated hcreate) hremove
    rw [hfailed]
    rfl
  | @notCopied sink created error steps written removal last hcreate hresult
      hsteps hremove =>
    have hopened : (FileStore.create state d.temporary).1 = .ok sink := by
      rw [hcreate]
    refine keepsProtocol_of_removed (.notCopied hopened hresult) rfl ?_
      (leadsTo_of_steps hcreate hsteps) hremove
    rw [hopened]
    exact events_of_steps hsteps
  | @notMoved sink created received steps written e last hcreate hresult hsteps
      hrename =>
    have hopened : (FileStore.create state d.temporary).1 = .ok sink := by
      rw [hcreate]
    exact keepsProtocol_of_renamed hopened hresult (events_of_steps hsteps)
      (leadsTo_of_steps hcreate hsteps) hrename rfl
  | @moved sink created received steps written last hcreate hresult hsteps
      hrename =>
    have hopened : (FileStore.create state d.temporary).1 = .ok sink := by
      rw [hcreate]
    exact keepsProtocol_of_renamed hopened hresult (events_of_steps hsteps)
      (leadsTo_of_steps hcreate hsteps) hrename rfl

/-- **The protocol of a download through a temporary file.** The target is asked
about once. Without a destination that is all, and the store and the body are left
alone; else the download keeps the protocol. -/
theorem save_protocol (r : Response) (earlyEnd : EarlyEnd) (target : Path)
    (suffix : Text) (state : σ) :
    match r.destination target suffix (FileStore.isDirectory state target) with
    | .error error =>
      (error = .noFileName target ∨ ∃ path, error = .notAFile path) ∧
        (r.save earlyEnd target suffix state).result = .error error ∧
        (r.save earlyEnd target suffix state).events =
          [.askedDirectory target (FileStore.isDirectory state target)] ∧
        (r.save earlyEnd target suffix state).state = state ∧
        (r.save earlyEnd target suffix state).body = r.body
    | .ok d => r.KeepsProtocol earlyEnd target d state
        (r.save earlyEnd target suffix state) := by
  rw [save]
  cases hdestination : r.destination target suffix
      (FileStore.isDirectory state target) with
  | error error => exact ⟨destination_error hdestination, rfl, rfl, rfl, rfl⟩
  | ok d => exact (saves_saveAt r earlyEnd d state).keepsProtocol

end Response

end HttpExchange
