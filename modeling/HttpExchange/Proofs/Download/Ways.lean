import HttpExchange.Download

/-! The ways a download can go. Once its destination is known, a download through
a temporary file goes one of four ways, by what fails first: creating the file,
the transfer of the body, moving the file into place, or nothing.
`Response.Saves` lists them with every step, and `saves_saveAt` is the only place
that unfolds the program. A download straight into its file goes one of two ways,
which `Response.SavesDirectly` lists: the file is created or it is not. -/

namespace HttpExchange

variable {σ : Type} [FileStore σ]

/-! ## Steps of a transfer -/

namespace Transcript

variable {path : Path} {state written : σ} {events : Transcript}
  {copied : List (DownloadStep σ)}

/-- The events of the steps of a transfer are the events of the transfer. -/
theorem map_event_of_steps (h : events.steps path state = (copied, written)) :
    copied.map DownloadStep.event = events.map .transferred := by
  induction events generalizing state copied with
  | nil =>
    cases h
    rfl
  | cons event rest ih =>
    cases h
    exact congrArg (_ :: ·) (ih rfl)

end Transcript

/-! ## Downloads -/

namespace Response

/-- The ways in which the body of `r` is downloaded to the destination `d` from
`state` on. -/
inductive Saves (r : Response) (earlyEnd : EarlyEnd) (d : Destination)
    (state : σ) : DownloadRun σ → Prop where
  /-- The temporary file cannot be created. -/
  | notCreated {e created removal last}
      (hcreate : FileStore.create state d.temporary = (.error e, created))
      (hremove : FileStore.remove created d.temporary = (removal, last)) :
      Saves r earlyEnd d state
        ⟨.error (.io e),
          [⟨.created d.temporary false, created⟩,
            ⟨.removed d.temporary removal.isOk, last⟩],
          last, r.body⟩
  /-- The transfer fails. -/
  | notCopied {sink created error steps written removal last}
      (hcreate : FileStore.create state d.temporary = (.ok sink, created))
      (hresult : (r.deliverAndClose earlyEnd sink).result = .error error)
      (hsteps : (r.deliverAndClose earlyEnd sink).events.steps d.temporary
        created = (steps, written))
      (hremove : FileStore.remove written d.temporary = (removal, last)) :
      Saves r earlyEnd d state
        ⟨.error error,
          ⟨.created d.temporary true, created⟩ :: steps ++
            [⟨.removed d.temporary removal.isOk, last⟩],
          last, (r.deliverAndClose earlyEnd sink).source⟩
  /-- The temporary file cannot be moved into place. -/
  | notMoved {sink created received steps written e last}
      (hcreate : FileStore.create state d.temporary = (.ok sink, created))
      (hresult : (r.deliverAndClose earlyEnd sink).result = .ok received)
      (hsteps : (r.deliverAndClose earlyEnd sink).events.steps d.temporary
        created = (steps, written))
      (hrename : FileStore.rename written d.temporary d.final true =
        (.error e, last)) :
      Saves r earlyEnd d state
        ⟨.error (.notMoved d.temporary d.final e),
          ⟨.created d.temporary true, created⟩ :: steps ++
            [⟨.renamed d.temporary d.final true false, last⟩],
          last, (r.deliverAndClose earlyEnd sink).source⟩
  /-- Nothing fails. -/
  | moved {sink created received steps written last}
      (hcreate : FileStore.create state d.temporary = (.ok sink, created))
      (hresult : (r.deliverAndClose earlyEnd sink).result = .ok received)
      (hsteps : (r.deliverAndClose earlyEnd sink).events.steps d.temporary
        created = (steps, written))
      (hrename : FileStore.rename written d.temporary d.final true =
        (.ok (), last)) :
      Saves r earlyEnd d state
        ⟨.ok d.final,
          ⟨.created d.temporary true, created⟩ :: steps ++
            [⟨.renamed d.temporary d.final true true, last⟩],
          last, (r.deliverAndClose earlyEnd sink).source⟩

/-- A download goes one of the ways. -/
theorem saves_saveAt (r : Response) (earlyEnd : EarlyEnd) (d : Destination)
    (state : σ) : r.Saves earlyEnd d state (r.saveAt earlyEnd d state) := by
  rw [saveAt]
  split
  · next e created hcreate => exact .notCreated hcreate rfl
  · next sink created hcreate =>
    obtain ⟨⟨steps, written⟩, hsteps⟩ : ∃ x, (r.deliverAndClose earlyEnd
        sink).events.steps d.temporary created = x := ⟨_, rfl⟩
    simp only [hsteps]
    split
    · next error hresult => exact .notCopied hcreate hresult hsteps rfl
    · next received hresult =>
      rw [Destination.moveIntoPlace]
      split
      next answer last hrename =>
      cases answer with
      | ok => exact .moved hcreate hresult hsteps hrename
      | error e => exact .notMoved hcreate hresult hsteps hrename

/-- The ways in which the body of `r` is downloaded straight into the file at
`final` from `state` on. -/
inductive SavesDirectly (r : Response) (earlyEnd : EarlyEnd) (final : Path)
    (state : σ) : DownloadRun σ → Prop where
  /-- The file cannot be created. -/
  | notCreated {e created}
      (hcreate : FileStore.create state final = (.error e, created)) :
      SavesDirectly r earlyEnd final state
        ⟨.error (.io e), [⟨.created final false, created⟩], created, r.body⟩
  /-- The body is transferred into the file. -/
  | copied {sink created steps written}
      (hcreate : FileStore.create state final = (.ok sink, created))
      (hsteps : (r.deliverAndClose earlyEnd sink).events.steps final created =
        (steps, written)) :
      SavesDirectly r earlyEnd final state
        ⟨(r.deliverAndClose earlyEnd sink).result.map fun _ => final,
          ⟨.created final true, created⟩ :: steps, written,
          (r.deliverAndClose earlyEnd sink).source⟩

/-- A download straight into a file goes one of the ways. -/
theorem savesDirectly_saveDirectlyAt (r : Response) (earlyEnd : EarlyEnd)
    (final : Path) (state : σ) :
    r.SavesDirectly earlyEnd final state
      (r.saveDirectlyAt earlyEnd final state) := by
  rw [saveDirectlyAt]
  split
  · next e created hcreate => exact .notCreated hcreate
  · next sink created hcreate => exact .copied hcreate rfl

end Response

end HttpExchange
