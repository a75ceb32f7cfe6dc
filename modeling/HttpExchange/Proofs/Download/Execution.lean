import HttpExchange.Proofs.Download.Ways

/-! Downloads as executions of a file store. What a download records is checked
against the store: `DownloadEvent.Happens` says what the store does in an event,
with which answer and into which state, and `Performs` that recorded steps are
what it does, one after another. `DownloadRun.LeadsTo` singles out the state in
which the last operation of a download is carried out. -/

namespace HttpExchange

variable {σ : Type} [FileStore σ]

/-- The event happens in `state`, and the store is in another state after it: an
operation is carried out and its answer recorded, bytes that are accepted go into
the file at `path`, and nothing else touches the store. -/
inductive DownloadEvent.Happens (path : Path) (state : σ) :
    DownloadEvent → σ → Prop where
  | askedDirectory (target : Path) :
      Happens path state
        (.askedDirectory target (FileStore.isDirectory state target)) state
  | created {file answer next}
      (h : FileStore.create state file = (answer, next)) :
      Happens path state (.created file answer.isOk) next
  | wrote (offered bytes : Bytes) :
      Happens path state (.transferred (.wrote offered (.ok bytes)))
        (FileStore.append state path bytes)
  | wroteNothing {event}
      (h : ∀ offered bytes, event ≠ .wrote offered (.ok bytes)) :
      Happens path state (.transferred event) state
  | renamed {source target overwrite answer next}
      (h : FileStore.rename state source target overwrite = (answer, next)) :
      Happens path state (.renamed source target overwrite answer.isOk) next
  | removed {file answer next}
      (h : FileStore.remove state file = (answer, next)) :
      Happens path state (.removed file answer.isOk) next

/-- The steps happen one after another, from one state to another. -/
inductive Performs (path : Path) : σ → List (DownloadStep σ) → σ → Prop where
  | nil {state} : Performs path state [] state
  | cons {state last event next rest}
      (hevent : DownloadEvent.Happens path state event next)
      (hrest : Performs path next rest last) :
      Performs path state (⟨event, next⟩ :: rest) last

namespace Performs

variable {path : Path} {state middle last : σ} {steps more : List (DownloadStep σ)}
  {event : DownloadEvent}

theorem append (h : Performs path state steps middle)
    (hmore : Performs path middle more last) :
    Performs path state (steps ++ more) last := by
  induction h with
  | nil => exact hmore
  | cons hevent _ ih => exact .cons hevent (ih hmore)

theorem concat (h : Performs path state steps middle)
    (hevent : event.Happens path middle last) :
    Performs path state (steps ++ [⟨event, last⟩]) last :=
  h.append (.cons hevent .nil)

end Performs

/-! ## Transfers -/

theorem TransferEvent.happens_apply (path : Path) (state : σ)
    (event : TransferEvent) :
    (DownloadEvent.transferred event).Happens path state
      (event.apply path state) := by
  cases event with
  | wrote offered result =>
    cases result with
    | ok bytes => exact .wrote offered bytes
    | error e => exact .wroteNothing nofun
  | _ => exact .wroteNothing nofun

/-- A transfer performs its steps. -/
theorem Transcript.performs_of_steps {path : Path} {state written : σ}
    {events : Transcript} {steps : List (DownloadStep σ)}
    (h : events.steps path state = (steps, written)) :
    Performs path state steps written := by
  induction events generalizing state steps with
  | nil =>
    cases h
    exact .nil
  | cons event rest ih =>
    cases h
    exact .cons (event.happens_apply path state) (ih rfl)

/-! ## The last step -/

/-- The last step of the run is the event, and the steps before it lead from
`state` to `written`. -/
def DownloadRun.LeadsTo (path : Path) (state written : σ) (event : DownloadEvent)
    (run : DownloadRun σ) : Prop :=
  ∃ early, run.steps = early ++ [⟨event, run.state⟩] ∧
    Performs path state early written

/-- A run performs its steps if it performs those before the last one, and then
the last one. -/
theorem DownloadRun.LeadsTo.performs {path : Path} {state written : σ}
    {event : DownloadEvent} {run : DownloadRun σ}
    (h : run.LeadsTo path state written event)
    (hevent : event.Happens path written run.state) :
    Performs path state run.steps run.state := by
  obtain ⟨early, hsteps, hearly⟩ := h
  rw [hsteps]
  exact hearly.concat hevent

namespace Response

variable {target : Path} {d : Destination} {state created written last : σ}
  {result : Except BodyError Path} {ending : DownloadEvent} {body : Source}

/-- The temporary file of a download is created, or not, after its target has been
asked about. -/
theorem performs_of_create {answer : Except IoError Sink}
    (hcreate : FileStore.create state d.temporary = (answer, created)) :
    Performs d.temporary state
      [⟨.askedDirectory target (FileStore.isDirectory state target), state⟩,
        ⟨.created d.temporary answer.isOk, created⟩] created :=
  .cons (.askedDirectory target) (.cons (.created hcreate) .nil)

/-- The last operation of a download whose temporary file could not be created. -/
theorem leadsTo_of_notCreated {e : IoError}
    (hcreate : FileStore.create state d.temporary = (.error e, created)) :
    DownloadRun.LeadsTo d.temporary state created ending
      (DownloadRun.after
        [⟨.askedDirectory target (FileStore.isDirectory state target), state⟩]
        ⟨result, [⟨.created d.temporary false, created⟩, ⟨ending, last⟩], last,
          body⟩) :=
  ⟨_, rfl, performs_of_create hcreate⟩

/-- The last operation of a download is carried out in the state that the transfer
has left. -/
theorem leadsTo_of_steps {sink : Sink} {copied : Transcript}
    {steps : List (DownloadStep σ)}
    (hcreate : FileStore.create state d.temporary = (.ok sink, created))
    (hsteps : copied.steps d.temporary created = (steps, written)) :
    DownloadRun.LeadsTo d.temporary state written ending
      (DownloadRun.after
        [⟨.askedDirectory target (FileStore.isDirectory state target), state⟩]
        ⟨result, ⟨.created d.temporary true, created⟩ :: steps ++
          [⟨ending, last⟩], last, body⟩) :=
  ⟨_, rfl, (performs_of_create hcreate).append
    (Transcript.performs_of_steps hsteps)⟩

end Response

end HttpExchange
