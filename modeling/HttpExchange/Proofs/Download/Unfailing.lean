import HttpExchange.File.Memory
import HttpExchange.Proofs.Body.Faultless
import HttpExchange.Proofs.Download.Ways

/-! Downloads in which nothing fails. `DownloadRun.Unfailing` says that every
operation of the file store in a run has succeeded, and every write and flush of the
file; the transfer of the body may still fail, because of its source. On a memory
that was not made to fail, every download is like that. -/

namespace HttpExchange

/-! ## Runs -/

/-- Whether the event is a failure of the file store, or of a file in it. -/
def DownloadEvent.failed : DownloadEvent → Bool
  | askedDirectory _ _ => false
  | created _ ok => !ok
  | transferred event => event.fault?.isSome
  | renamed _ _ _ ok => !ok
  | removed _ ok => !ok

namespace DownloadRun

variable {σ : Type} {run : DownloadRun σ} {copied : Transcript}

/-- Nothing fails in the file store. -/
def Unfailing (run : DownloadRun σ) : Prop :=
  ∀ event ∈ run.events, event.failed = false

/-- Nothing fails in a run if nothing fails in what happened before and after. -/
theorem unfailing_after_iff {steps : List (DownloadStep σ)} :
    (run.after steps).Unfailing ↔
      (∀ step ∈ steps, step.event.failed = false) ∧ run.Unfailing := by
  rw [Unfailing, events, after, List.map_append, List.forall_mem_append,
    List.forall_mem_map]
  rfl

/-- Nothing fails in a run with a transfer if the transfer meets no fault and
nothing fails before and after it. -/
theorem unfailing_iff_of_events {early late : List DownloadEvent}
    (hevents : run.events = early ++ copied.map .transferred ++ late) :
    run.Unfailing ↔ ((∀ event ∈ early, event.failed = false) ∧
      copied.Faultless) ∧ ∀ event ∈ late, event.failed = false := by
  rw [Unfailing, hevents, List.forall_mem_append, List.forall_mem_append,
    List.forall_mem_map]
  simp only [DownloadEvent.failed, Option.isSome_eq_false_iff,
    Option.isNone_iff_eq_none]
  rfl

end DownloadRun

namespace Response

variable {σ : Type} [FileStore σ] {r : Response} {earlyEnd : EarlyEnd}
  {final : Path} {d : Destination} {state : σ}

/-- The events of a download straight into its file, from the creation of the file
on. -/
theorem events_of_copied {copied : Transcript} {path : Path}
    {created written : σ} {steps : List (DownloadStep σ)}
    {result : Except BodyError Path} {body : Source}
    (hsteps : copied.steps path created = (steps, written)) :
    DownloadRun.events
        ⟨result, ⟨.created path true, created⟩ :: steps, written, body⟩ =
      [.created path true] ++ copied.map .transferred ++ [] := by
  rw [List.append_nil, ← Transcript.map_event_of_steps hsteps]
  rfl

/-- The events of a download through a temporary file, from the creation of the
file on. -/
theorem events_of_ended {copied : Transcript} {path : Path}
    {created written last : σ} {steps : List (DownloadStep σ)}
    {result : Except BodyError Path} {ending : DownloadEvent} {body : Source}
    (hsteps : copied.steps path created = (steps, written)) :
    DownloadRun.events ⟨result, ⟨.created path true, created⟩ :: steps ++
        [⟨ending, last⟩], last, body⟩ =
      [.created path true] ++ copied.map .transferred ++ [ending] := by
  rw [← Transcript.map_event_of_steps hsteps]
  simp [DownloadRun.events]

theorem saveDirectly_of_finalPath {target : Path} {param : Option Text}
    (h : r.finalPath param target (FileStore.isDirectory state target) =
      .ok final) :
    r.saveDirectly earlyEnd target param state =
      (r.saveDirectlyAt earlyEnd final state).after
        [⟨.askedDirectory target (FileStore.isDirectory state target), state⟩] := by
  rw [saveDirectly, h]

theorem save_of_destination {target : Path} {suffix : Text}
    (h : r.destination target suffix (FileStore.isDirectory state target) =
      .ok d) :
    r.save earlyEnd target suffix state =
      (r.saveAt earlyEnd d state).after
        [⟨.askedDirectory target (FileStore.isDirectory state target), state⟩] := by
  rw [save, h]

end Response

/-! ## Memories in which nothing fails -/

namespace Memory

/-- No operation on the memory fails, and its files refuse nothing. -/
structure Reliable (m : Memory) : Prop where
  create : m.createError = none
  rename : m.renameError = none
  remove : m.removeError = none
  sink : m.sink.Willing

namespace Reliable

variable {m written : Memory} {path : Path} {copied : Transcript}
  {steps : List (DownloadStep Memory)} {r : Response} {earlyEnd : EarlyEnd}
  {final : Path} {d : Destination} {run : DownloadRun Memory}

theorem put (h : m.Reliable) (path : Path) (data : Bytes) :
    (m.put path data).Reliable :=
  ⟨h.create, h.rename, h.remove, h.sink⟩

/-- A transfer into a file leaves the memory reliable. -/
theorem of_steps (h : m.Reliable)
    (hsteps : copied.steps path m = (steps, written)) : written.Reliable := by
  induction copied generalizing m steps with
  | nil =>
    cases hsteps
    exact h
  | cons event rest ih =>
    have hnext : (event.apply path m).Reliable := by
      cases event with
      | wrote offered result =>
        cases result with
        | ok bytes => exact h.put path _
        | error e => exact h
      | read want result => exact h
      | flushed result => exact h
      | notified notification => exact h
      | closed => exact h
    cases hsteps
    exact ih hnext rfl

theorem create_eq (h : m.Reliable) (path : Path) :
    FileStore.create m path = (.ok m.sink, m.put path []) := by
  change answer m.createError _ _ _ = _
  rw [h.create]
  rfl

theorem rename_eq (h : m.Reliable) (source target : Path) :
    FileStore.rename m source target true =
      (.ok (), m.move source target) := by
  change answer m.renameError _ _ _ = _
  rw [h.rename]
  rfl

theorem remove_eq (h : m.Reliable) (path : Path) :
    FileStore.remove m path = (.ok (), m.erase path) := by
  change answer m.removeError _ _ _ = _
  rw [h.remove]
  rfl

/-- Nothing fails in a download straight into its file. -/
theorem unfailing_of_savesDirectly (h : m.Reliable)
    (hways : r.SavesDirectly earlyEnd final m run) : run.Unfailing := by
  cases hways with
  | notCreated hcreate =>
    rw [h.create_eq] at hcreate
    cases hcreate
  | copied hcreate hsteps =>
    rw [h.create_eq] at hcreate
    cases hcreate
    rw [DownloadRun.unfailing_iff_of_events (Response.events_of_copied hsteps)]
    exact ⟨⟨by simp [DownloadEvent.failed],
      Transfer.runAndClose_faultless h.sink⟩, by simp⟩

/-- Nothing fails in a download through a temporary file. -/
theorem unfailing_of_saves (h : m.Reliable)
    (hways : r.Saves earlyEnd d m run) : run.Unfailing := by
  have hcopied : (r.deliverAndClose earlyEnd m.sink).events.Faultless :=
    Transfer.runAndClose_faultless h.sink
  cases hways with
  | notCreated hcreate hremove =>
    rw [h.create_eq] at hcreate
    cases hcreate
  | notCopied hcreate hresult hsteps hremove =>
    rw [h.create_eq] at hcreate
    cases hcreate
    rw [((h.put _ _).of_steps hsteps).remove_eq] at hremove
    cases hremove
    rw [DownloadRun.unfailing_iff_of_events (Response.events_of_ended hsteps)]
    exact ⟨⟨by simp [DownloadEvent.failed], hcopied⟩, by
      simp [DownloadEvent.failed, Except.isOk, Except.toBool]⟩
  | notMoved hcreate hresult hsteps hrename =>
    rw [h.create_eq] at hcreate
    cases hcreate
    rw [((h.put _ _).of_steps hsteps).rename_eq] at hrename
    cases hrename
  | moved hcreate hresult hsteps hrename =>
    rw [h.create_eq] at hcreate
    cases hcreate
    rw [DownloadRun.unfailing_iff_of_events (Response.events_of_ended hsteps)]
    exact ⟨⟨by simp [DownloadEvent.failed], hcopied⟩, by
      simp [DownloadEvent.failed]⟩

/-- Nothing fails in a download straight to a target. -/
theorem saveDirectly_unfailing (h : m.Reliable) (r : Response)
    (earlyEnd : EarlyEnd) (target : Path) (param : Option Text) :
    (r.saveDirectly earlyEnd target param m).Unfailing := by
  rw [Response.saveDirectly, DownloadRun.unfailing_after_iff]
  refine ⟨by simp [DownloadEvent.failed], ?_⟩
  cases r.finalPath param target (FileStore.isDirectory m target) with
  | error e => exact fun _ hmem => absurd hmem List.not_mem_nil
  | ok final =>
    exact h.unfailing_of_savesDirectly
      (r.savesDirectly_saveDirectlyAt earlyEnd final m)

/-- Nothing fails in a download to a target through a temporary file. -/
theorem save_unfailing (h : m.Reliable) (r : Response) (earlyEnd : EarlyEnd)
    (target : Path) (suffix : Text) :
    (r.save earlyEnd target suffix m).Unfailing := by
  rw [Response.save, DownloadRun.unfailing_after_iff]
  refine ⟨by simp [DownloadEvent.failed], ?_⟩
  cases r.destination target suffix (FileStore.isDirectory m target) with
  | error e => exact fun _ hmem => absurd hmem List.not_mem_nil
  | ok d => exact h.unfailing_of_saves (r.saves_saveAt earlyEnd d m)

end Reliable

end Memory

end HttpExchange
