import HttpExchange.Proofs.Download.Protocol
import HttpExchange.Proofs.Download.Unfailing
import HttpExchange.Proofs.File.Disk
import Mathlib.Control.Monad.Basic

/-! What a download leaves behind, wherever it stops. After every step all files
but the temporary one are what they were, except that the last step may replace
the final file, all at once, by the bytes that were written. The invariant is
`FileView.SameBut`; `FileView.of_steps` carries it through a transfer, and the
ways of a download give the rest. What the last operation does is told by the
answer of the store, in the state that the steps before it lead to. -/

namespace HttpExchange

/-- The bytes that a file took in an event. -/
def DownloadEvent.accepted : DownloadEvent → Bytes
  | transferred event => event.accepted
  | _ => []

/-- All the bytes that a download wrote. -/
def DownloadRun.accepted {σ : Type} (run : DownloadRun σ) : Bytes :=
  run.events.flatMap DownloadEvent.accepted

/-- What a download writes is what its transfer writes. -/
theorem DownloadRun.accepted_of_events {σ : Type} {run : DownloadRun σ}
    {target : Path} {d : Destination} {isDirectory ok : Bool}
    {copied : Transcript} {last : DownloadEvent}
    (hevents : run.events =
      downloadEvents target isDirectory d.temporary ok copied last)
    (hlast : last.isOperation = true) : run.accepted = copied.accepted := by
  have hnone : last.accepted = [] := by
    cases last with
    | transferred event => cases hlast
    | _ => rfl
  rw [DownloadRun.accepted, hevents, downloadEvents, List.flatMap_append,
    List.flatMap_cons, List.flatMap_cons, List.flatMap_map,
    List.flatMap_singleton, hnone, List.append_nil]
  rfl

namespace Destination

/-- The event of the temporary file being moved into place. -/
def commit (d : Destination) : DownloadEvent :=
  .renamed d.temporary d.final true true

/-- After steps none of which is the commit, a commit can only be the last. -/
theorem eq_last_of_commit {σ : Type} (d : Destination)
    {early before later : List (DownloadStep σ)} {step last : DownloadStep σ}
    (hsteps : early ++ [last] = before ++ step :: later)
    (hearly : ∀ step ∈ early, step.event ≠ d.commit)
    (hstep : step.event = d.commit) :
    before = early ∧ step = last ∧ later = [] := by
  rcases List.eq_nil_or_concat later with rfl | ⟨more, y, rfl⟩
  · obtain ⟨hbefore, hlast⟩ := List.append_inj' hsteps rfl
    cases hlast
    exact ⟨hbefore.symm, rfl, rfl⟩
  -- If something follows the step, the step is among the early ones.
  · rw [List.concat_eq_append, ← List.cons_append, ← List.append_assoc]
      at hsteps
    obtain ⟨rfl, -⟩ := List.append_inj' hsteps rfl
    exact absurd hstep (hearly step (by simp))

end Destination

variable {σ κ : Type} [FileStore σ] {view : FileView σ κ}

/-! ## Writing -/

namespace FileView

variable {p : Path} {s written : σ} {data : Bytes}
  {steps : List (DownloadStep σ)}

/-- An event of a transfer puts the bytes that were accepted at the end of the
file, and changes no other. -/
theorem of_apply (event : TransferEvent) (hdata : view.find? s p = some data) :
    view.SameBut p s (event.apply p s) ∧
      view.find? (event.apply p s) p = some (data ++ event.accepted) := by
  have hsame : view.SameBut p s s ∧ view.find? s p = some (data ++ []) := by
    rw [List.append_nil]
    exact ⟨SameBut.refl, hdata⟩
  cases event with
  | wrote offered result =>
    cases result with
    | ok bytes =>
      obtain ⟨hfound, hsame⟩ := view.append bytes hdata
      exact ⟨hsame, hfound⟩
    | error e => exact hsame
  | read want result => exact hsame
  | flushed result => exact hsame
  | notified notification => exact hsame
  | closed => exact hsame

/-- A transfer into a file puts all accepted bytes at its end. No step changes
another file. -/
theorem of_steps {events : Transcript} (hdata : view.find? s p = some data)
    (h : events.steps p s = (steps, written)) :
    (∀ step ∈ steps, view.SameBut p s step.state ∧
      step.event.isOperation = false) ∧
      view.SameBut p s written ∧
      view.find? written p = some (data ++ events.accepted) := by
  induction events generalizing s data steps with
  | nil =>
    cases h
    refine ⟨by simp, SameBut.refl, ?_⟩
    rw [Transcript.accepted_nil, List.append_nil]
    exact hdata
  | cons event rest ih =>
    obtain ⟨hsame, hfound⟩ := of_apply event hdata
    cases h
    obtain ⟨hsteps, hrest, hfinal⟩ := ih hfound rfl
    refine ⟨?_, hsame.trans hrest, ?_⟩
    · intro step hmem
      rcases List.mem_cons.mp hmem with rfl | hmem
      · exact ⟨hsame, rfl⟩
      · obtain ⟨hlater, hevent⟩ := hsteps step hmem
        exact ⟨hsame.trans hlater, hevent⟩
    · rw [Transcript.accepted_cons, ← List.append_assoc]
      exact hfinal

end FileView

/-! ## Steps -/

/-- What the steps of a download to `d` do to the files. -/
structure DownloadRun.KeepsFiles (view : FileView σ κ) (d : Destination)
    (state : σ) (run : DownloadRun σ) : Prop where
  /-- The store does what is recorded, step by step. -/
  performed : Performs d.temporary state run.steps run.state
  /-- The state at the end is that after the last step. -/
  last : run.steps.getLast?.map DownloadStep.state = some run.state
  /-- Before the temporary file has been moved into place, all other files are
  what they were. -/
  untouched : ∀ step ∈ run.steps, step.event ≠ d.commit →
    view.SameBut d.temporary state step.state
  /-- The temporary file is moved into place in one step, which is the last.
  After it the final file holds what was written, there is no temporary file,
  and all other files are what they were. -/
  committed : ∀ before step later, run.steps = before ++ step :: later →
    step.event = d.commit →
      later = [] ∧ d.commit ∉ before.map DownloadStep.event ∧
        view.read? step.state (view.file d.final) = some run.accepted ∧
        view.read? step.state (view.file d.temporary) = none ∧
        ∀ k, k ≠ view.file d.temporary → k ≠ view.file d.final →
          view.read? step.state k = view.read? state k

/-- The steps of a download before its last operation: the store does them, none
of them moves the temporary file, and all other files stay what they were. -/
structure EarlySteps (view : FileView σ κ) (d : Destination) (state written : σ)
    (steps : List (DownloadStep σ)) : Prop where
  performed : Performs d.temporary state steps written
  uncommitted : ∀ step ∈ steps, step.event ≠ d.commit
  untouched : ∀ step ∈ steps, view.SameBut d.temporary state step.state
  same : view.SameBut d.temporary state written

namespace EarlySteps

variable {d : Destination} {state written : σ} {run : DownloadRun σ}
  {early : List (DownloadStep σ)} {event : DownloadEvent}

theorem append {middle : σ} {more : List (DownloadStep σ)}
    (h : EarlySteps view d state middle early)
    (hmore : Performs d.temporary middle more written)
    (huncommitted : ∀ step ∈ more, step.event ≠ d.commit)
    (huntouched : ∀ step ∈ more, view.SameBut d.temporary middle step.state)
    (hsame : view.SameBut d.temporary middle written) :
    EarlySteps view d state written (early ++ more) where
  performed := h.performed.append hmore
  uncommitted := by
    intro step hmem
    rcases List.mem_append.mp hmem with hmem | hmem
    · exact h.uncommitted step hmem
    · exact huncommitted step hmem
  untouched := by
    intro step hmem
    rcases List.mem_append.mp hmem with hmem | hmem
    · exact h.untouched step hmem
    · exact h.same.trans (huntouched step hmem)
  same := h.same.trans hsame

/-- A download keeps the files if its last step moves nothing. -/
theorem keepsFiles_of_uncommitted (h : EarlySteps view d state written early)
    (hsteps : run.steps = early ++ [⟨event, run.state⟩])
    (hevent : event.Happens d.temporary written run.state)
    (hne : event ≠ d.commit) (hlast : view.SameBut d.temporary state run.state) :
    run.KeepsFiles view d state where
  performed := by
    rw [hsteps]
    exact h.performed.concat hevent
  last := by
    rw [hsteps, List.getLast?_concat]
    rfl
  untouched step hmem _ := by
    rw [hsteps] at hmem
    rcases List.mem_append.mp hmem with hmem | hmem
    · exact h.untouched step hmem
    · obtain rfl := List.mem_singleton.mp hmem
      exact hlast
  committed before step later hsplit hstep := by
    rw [hsteps] at hsplit
    obtain ⟨-, rfl, -⟩ := d.eq_last_of_commit hsplit h.uncommitted hstep
    exact absurd hstep hne

/-- A download keeps the files if its last step moves the temporary file. -/
theorem keepsFiles_of_committed (h : EarlySteps view d state written early)
    (hsteps : run.steps = early ++ [⟨d.commit, run.state⟩])
    (hevent : d.commit.Happens d.temporary written run.state)
    (hfinal : view.read? run.state (view.file d.final) = some run.accepted)
    (htemporary : view.read? run.state (view.file d.temporary) = none)
    (hothers : ∀ k, k ≠ view.file d.temporary → k ≠ view.file d.final →
      view.read? run.state k = view.read? state k) :
    run.KeepsFiles view d state where
  performed := by
    rw [hsteps]
    exact h.performed.concat hevent
  last := by
    rw [hsteps, List.getLast?_concat]
    rfl
  untouched step hmem hstep := by
    rw [hsteps] at hmem
    rcases List.mem_append.mp hmem with hmem | hmem
    · exact h.untouched step hmem
    · obtain rfl := List.mem_singleton.mp hmem
      exact absurd rfl hstep
  committed before step later hsplit hstep := by
    rw [hsteps] at hsplit
    obtain ⟨rfl, rfl, hlater⟩ := d.eq_last_of_commit hsplit h.uncommitted hstep
    refine ⟨hlater, ?_, hfinal, htemporary, hothers⟩
    intro hmem
    obtain ⟨step, hstep, heq⟩ := List.mem_map.mp hmem
    exact h.uncommitted step hstep heq

end EarlySteps

/-! ## Downloads -/

namespace Response

/-- What a download to `d` leaves of the files, at every step and at the end. -/
structure CrashSafe (view : FileView σ κ) (r : Response) (earlyEnd : EarlyEnd)
    (d : Destination) (state : σ) (run : DownloadRun σ) : Prop where
  distinct : view.file d.temporary ≠ view.file d.final
  steps : run.KeepsFiles view d state
  /-- After a success the final file is found and holds what was written, and
  there is no temporary file. -/
  ok : ∀ path, run.result = .ok path →
    path = d.final ∧ view.find? run.state d.final = some run.accepted ∧
      view.read? run.state (view.file d.final) = some run.accepted ∧
      view.read? run.state (view.file d.temporary) = none
  /-- After a failure the final file is what it was. The last thing that the store
  was asked to do was to remove the temporary file, and if it did so, then no such
  file is found. -/
  failed : ∀ error, run.result = .error error →
    (∀ source final e, error ≠ .notMoved source final e) →
      view.read? run.state (view.file d.final) =
          view.read? state (view.file d.final) ∧
        ∃ written answer,
          run.LeadsTo d.temporary state written
            (.removed d.temporary answer.isOk) ∧
          FileStore.remove written d.temporary = (answer, run.state) ∧
          (answer = .ok () → view.find? run.state d.temporary = none)
  /-- If the temporary file cannot be moved, it is found and holds what was
  written, and the final file is what it was. -/
  notMoved : ∀ source final e,
    run.result = .error (.notMoved source final e) →
      view.read? run.state (view.file d.final) =
          view.read? state (view.file d.final) ∧
        view.find? run.state d.temporary = some run.accepted ∧
        view.read? run.state (view.file d.temporary) = some run.accepted
  /-- In both cases the transfer has an outcome, and what was written is all
  that it counts. -/
  whole : ((∃ path, run.result = .ok path) ∨
      ∃ source final e, run.result = .error (.notMoved source final e)) →
    ∃ sink received, (FileStore.create state d.temporary).1 = .ok sink ∧
      (r.deliverAndClose earlyEnd sink).result = .ok received ∧
      run.accepted = (r.deliverAndClose earlyEnd sink).events.accepted ∧
      run.accepted.length = received.bytes

variable {r : Response} {earlyEnd : EarlyEnd} {target : Path}
  {isDirectory : Bool} {d : Destination} {state created written : σ}
  {run : DownloadRun σ} {early steps : List (DownloadStep σ)}
  {copied : Transcript}

/-- The creation of the temporary file is the end of early steps. -/
theorem earlySteps_of_create {answer : Except IoError Sink}
    (hcreate : FileStore.create state d.temporary = (answer, created)) :
    EarlySteps view d state created
      [⟨.askedDirectory target (FileStore.isDirectory state target), state⟩,
        ⟨.created d.temporary answer.isOk, created⟩] where
  performed := performs_of_create hcreate
  uncommitted := by simp [Destination.commit]
  untouched := by
    intro step hmem
    rcases List.mem_cons.mp hmem with rfl | hmem
    · exact FileView.SameBut.refl
    · obtain rfl := List.mem_singleton.mp hmem
      exact FileView.sameBut_create hcreate
  same := FileView.sameBut_create hcreate

/-- So is the transfer into the temporary file, and then the file holds what was
accepted. -/
theorem earlySteps_of_steps {sink : Sink}
    (hcreate : FileStore.create state d.temporary = (.ok sink, created))
    (hsteps : copied.steps d.temporary created = (steps, written)) :
    EarlySteps view d state written
        (([⟨.askedDirectory target (FileStore.isDirectory state target), state⟩,
          ⟨.created d.temporary true, created⟩] : List (DownloadStep σ)) ++
          steps) ∧
      view.find? written d.temporary = some copied.accepted := by
  obtain ⟨hcopied, hwritten, hfound⟩ :=
    FileView.of_steps (view.create_ok hcreate).1 hsteps
  refine ⟨(earlySteps_of_create hcreate).append
    (Transcript.performs_of_steps hsteps) ?_ ?_ hwritten, hfound⟩
  · intro step hmem heq
    have hevent := (hcopied step hmem).2
    rw [heq] at hevent
    cases hevent
  · intro step hmem
    exact (hcopied step hmem).1

/-- A download whose transfer has an outcome has written all that it counts. -/
theorem whole_of_delivered {sink : Sink} {received : Received}
    (hcreate : FileStore.create state d.temporary = (.ok sink, created))
    (hreceived : (r.deliverAndClose earlyEnd sink).result = .ok received)
    (haccepted : run.accepted =
      (r.deliverAndClose earlyEnd sink).events.accepted) :
    ∃ sink received, (FileStore.create state d.temporary).1 = .ok sink ∧
      (r.deliverAndClose earlyEnd sink).result = .ok received ∧
      run.accepted = (r.deliverAndClose earlyEnd sink).events.accepted ∧
      run.accepted.length = received.bytes := by
  obtain ⟨⟨_, _, _, _, hcount⟩, -⟩ := Transfer.runAndClose_flushed hreceived
  refine ⟨sink, received, by rw [hcreate], hreceived, haccepted, ?_⟩
  rw [haccepted]
  exact hcount

/-- A download that removes its temporary file is safe. -/
theorem crashSafe_of_removed {removal : Except IoError Unit} {error : BodyError}
    (hne : view.file d.temporary ≠ view.file d.final)
    (hearly : EarlySteps view d state written early)
    (hsteps : run.steps =
      early ++ [⟨.removed d.temporary removal.isOk, run.state⟩])
    (hremove : FileStore.remove written d.temporary = (removal, run.state))
    (hresult : run.result = .error error)
    (hcause : r.FailsWith earlyEnd d state copied error) :
    r.CrashSafe view earlyEnd d state run := by
  have hlast : view.SameBut d.temporary state run.state :=
    hearly.same.trans (FileView.sameBut_remove hremove)
  refine ⟨hne, hearly.keepsFiles_of_uncommitted hsteps (.removed hremove) nofun
    hlast, ?_, ?_, ?_, ?_⟩
  · intro path hok
    rw [hresult] at hok
    cases hok
  · intro _ _ _
    refine ⟨hlast _ (Ne.symm hne), written, removal,
      ⟨early, hsteps, hearly.performed⟩, hremove, ?_⟩
    rintro rfl
    exact (view.remove_ok hremove).1
  · intro source final e hnotMoved
    rw [hresult, Except.error.injEq] at hnotMoved
    exact absurd hnotMoved hcause.ne_notMoved
  · rintro (⟨path, hok⟩ | ⟨source, final, e, hnotMoved⟩)
    · rw [hresult] at hok
      cases hok
    · rw [hresult, Except.error.injEq] at hnotMoved
      exact absurd hnotMoved hcause.ne_notMoved

/-- A download that cannot move its temporary file is safe. -/
theorem crashSafe_of_notMoved {sink : Sink} {received : Received} {e : IoError}
    (hne : view.file d.temporary ≠ view.file d.final)
    (hcreate : FileStore.create state d.temporary = (.ok sink, created))
    (hreceived : (r.deliverAndClose earlyEnd sink).result = .ok received)
    (hearly : EarlySteps view d state written early)
    (hfound : view.find? written d.temporary =
      some (r.deliverAndClose earlyEnd sink).events.accepted)
    (hevents : run.events = downloadEvents target isDirectory d.temporary true
      (r.deliverAndClose earlyEnd sink).events
      (.renamed d.temporary d.final true false))
    (hsteps : run.steps =
      early ++ [⟨.renamed d.temporary d.final true false, run.state⟩])
    (hrename : FileStore.rename written d.temporary d.final true =
      (.error e, run.state))
    (hresult : run.result = .error (.notMoved d.temporary d.final e)) :
    r.CrashSafe view earlyEnd d state run := by
  obtain ⟨hkept, hthere⟩ := view.rename_error hrename
  have hlast : view.SameBut d.temporary state run.state :=
    fun k hk => (hkept k).trans (hearly.same k hk)
  have haccepted := DownloadRun.accepted_of_events hevents rfl
  rw [hfound, ← haccepted] at hthere
  refine ⟨hne, hearly.keepsFiles_of_uncommitted hsteps (.renamed hrename) nofun
    hlast, ?_, ?_, ?_, ?_⟩
  · intro path hok
    rw [hresult] at hok
    cases hok
  · intro error herror hnotMoved
    rw [hresult] at herror
    cases herror
    exact absurd rfl (hnotMoved _ _ _)
  · intro source final e' _
    exact ⟨hlast _ (Ne.symm hne), hthere, view.read?_of_find? hthere⟩
  · intro _
    exact whole_of_delivered hcreate hreceived haccepted

/-- A download that moves its temporary file is safe. -/
theorem crashSafe_of_moved {sink : Sink} {received : Received}
    (hne : view.file d.temporary ≠ view.file d.final)
    (hcreate : FileStore.create state d.temporary = (.ok sink, created))
    (hreceived : (r.deliverAndClose earlyEnd sink).result = .ok received)
    (hearly : EarlySteps view d state written early)
    (hfound : view.find? written d.temporary =
      some (r.deliverAndClose earlyEnd sink).events.accepted)
    (hevents : run.events = downloadEvents target isDirectory d.temporary true
      (r.deliverAndClose earlyEnd sink).events d.commit)
    (hsteps : run.steps = early ++ [⟨d.commit, run.state⟩])
    (hrename : FileStore.rename written d.temporary d.final true =
      (.ok (), run.state))
    (hresult : run.result = .ok d.final) :
    r.CrashSafe view earlyEnd d state run := by
  have haccepted := DownloadRun.accepted_of_events hevents rfl
  rw [← haccepted] at hfound
  -- The only step that changes the final file: it gets what was written.
  obtain ⟨hfinal, htemporary, hothers⟩ := view.rename_ok hrename hne hfound
  have hread := view.read?_of_find? hfinal
  have hkept : ∀ k, k ≠ view.file d.temporary → k ≠ view.file d.final →
      view.read? run.state k = view.read? state k :=
    fun k hk hk' => (hothers k hk hk').trans (hearly.same k hk)
  refine ⟨hne, hearly.keepsFiles_of_committed hsteps (.renamed hrename) hread
    htemporary hkept, ?_, ?_, ?_, ?_⟩
  · intro path hok
    rw [hresult] at hok
    cases hok
    exact ⟨rfl, hfinal, hread, htemporary⟩
  · intro error herror
    rw [hresult] at herror
    cases herror
  · intro source final e herror
    rw [hresult] at herror
    cases herror
  · intro _
    exact whole_of_delivered hcreate hreceived haccepted

/-- Every way of a download is safe if the temporary file is not the final
one. -/
theorem Saves.crashSafe (h : r.Saves earlyEnd d state run)
    (hne : view.file d.temporary ≠ view.file d.final) :
    r.CrashSafe view earlyEnd d state
      (run.after [⟨.askedDirectory target (FileStore.isDirectory state target),
        state⟩]) := by
  cases h with
  | notCreated hcreate hremove =>
    exact crashSafe_of_removed hne (earlySteps_of_create hcreate) rfl hremove rfl
      (.notCreated (congrArg Prod.fst hcreate))
  | notCopied hcreate hresult hsteps hremove =>
    exact crashSafe_of_removed hne (earlySteps_of_steps hcreate hsteps).1 rfl
      hremove rfl (.notCopied (congrArg Prod.fst hcreate) hresult)
  | notMoved hcreate hresult hsteps hrename =>
    obtain ⟨hearly, hfound⟩ := earlySteps_of_steps hcreate hsteps
    exact crashSafe_of_notMoved hne hcreate hresult hearly hfound
      (events_of_steps hsteps) rfl hrename rfl
  | moved hcreate hresult hsteps hrename =>
    obtain ⟨hearly, hfound⟩ := earlySteps_of_steps hcreate hsteps
    exact crashSafe_of_moved hne hcreate hresult hearly hfound
      (events_of_steps hsteps) rfl hrename rfl

/-- **The crash safety of a download through a temporary file.** If there is no
slash in the suffix, the temporary file is beside the final one and the download
is safe at every step. Without a destination nothing happens to the files. -/
theorem save_crashSafe (view : FileView σ κ) (r : Response)
    (earlyEnd : EarlyEnd) (target : Path) (suffix : Text) (state : σ)
    (hsuffix : '/' ∉ suffix) :
    match r.destination target suffix (FileStore.isDirectory state target) with
    | .error error =>
      (r.save earlyEnd target suffix state).result = .error error ∧
        (∀ step ∈ (r.save earlyEnd target suffix state).steps,
          step.state = state) ∧
        (r.save earlyEnd target suffix state).state = state
    | .ok d =>
      Path.Beside d.temporary d.final ∧
        r.CrashSafe view earlyEnd d state
          (r.save earlyEnd target suffix state) := by
  rw [save]
  cases hdestination : r.destination target suffix
      (FileStore.isDirectory state target) with
  | error error =>
    refine ⟨rfl, ?_, rfl⟩
    intro step hmem
    obtain rfl := List.mem_singleton.mp hmem
    rfl
  | ok d =>
    obtain ⟨final, -, hd⟩ := destination_eq_ok hdestination
    have hbeside := Destination.beside_of_ofPath hd hsuffix
    exact ⟨hbeside, (saves_saveAt r earlyEnd d state).crashSafe
      (view.file_ne_of_beside hbeside)⟩

/-- Three bytes, which arrive in two pieces, replace a file on a disk. A body that
breaks off leaves the file as it was, and the temporary file is removed. In a
memory whose files cannot be renamed, the three bytes stay in the temporary file. -/
theorem save_crashSafe_replaced_and_rolled_back :
    let whole : Response := ⟨[], [.piece [1, 2], .piece [3]]⟩
    let broken : Response :=
      ⟨[], [.piece [1, 2], .fail (.bare .unexpectedEof)]⟩
    let disk : Disk := ⟨[(["a".toList], .file [0])]⟩
    let memory : Memory := {
      files := [("a".toList, [0])]
      renameError := some (.bare .permissionDenied) }
    let saved := whole.save .refuse "a".toList ".part".toList disk
    let failed := broken.save .refuse "a".toList ".part".toList disk
    let stuck := whole.save .refuse "a".toList ".part".toList memory
    '/' ∉ ".part".toList ∧
      saved.state.find? "a".toList = some [1, 2, 3] ∧
      ((∃ written, FileStore.remove written "a.part".toList =
          (.ok (), failed.state)) ∧
        failed.state.find? "a.part".toList = none ∧
        failed.state.read? (Disk.locate "a".toList) = some [0]) ∧
      stuck.state.read? "a.part".toList = some [1, 2, 3] ∧
      stuck.state.read? "a".toList = some [0] := by
  intro whole broken disk memory saved failed stuck
  have hsuffix : '/' ∉ ".part".toList := by decide
  refine ⟨hsuffix, ?_, ?_, ?_⟩
  · have hd : whole.destination "a".toList ".part".toList
        (FileStore.isDirectory disk "a".toList) =
          .ok ⟨"a".toList, "a.part".toList⟩ := by decide +kernel
    have h := save_crashSafe Disk.view whole .refuse "a".toList ".part".toList disk
      hsuffix
    rw [hd] at h
    have hok : saved.result = .ok "a".toList := by decide +kernel
    have haccepted : saved.accepted = [1, 2, 3] := by decide +kernel
    have hfound := (h.2.ok _ hok).2.1
    rw [haccepted] at hfound
    exact hfound
  · have hd : broken.destination "a".toList ".part".toList
        (FileStore.isDirectory disk "a".toList) =
          .ok ⟨"a".toList, "a.part".toList⟩ := by decide +kernel
    have h := save_crashSafe Disk.view broken .refuse "a".toList ".part".toList disk
      hsuffix
    rw [hd] at h
    have herror : failed.result =
        .error (.endedEarly 2 (.bare .unexpectedEof)) := by decide +kernel
    have hlast : failed.events.getLast?.map DownloadEvent.failed =
        some false := by decide +kernel
    obtain ⟨hkept, written, answer, ⟨early, hsteps, -⟩, hremove, hgone⟩ :=
      h.2.failed _ herror nofun
    have hok : answer = .ok () := by
      rw [DownloadRun.events, hsteps] at hlast
      cases answer with
      | ok => rfl
      | error e => simp [DownloadEvent.failed, Except.isOk, Except.toBool] at hlast
    rw [hok] at hremove
    exact ⟨⟨written, hremove⟩, hgone hok, hkept⟩
  · have hd : whole.destination "a".toList ".part".toList
        (FileStore.isDirectory memory "a".toList) =
          .ok ⟨"a".toList, "a.part".toList⟩ := by decide +kernel
    have h := save_crashSafe Memory.view whole .refuse "a".toList ".part".toList
      memory hsuffix
    rw [hd] at h
    have herror : stuck.result = .error (.notMoved "a.part".toList "a".toList
        (.bare .permissionDenied)) := by decide +kernel
    have haccepted : stuck.accepted = [1, 2, 3] := by decide +kernel
    obtain ⟨hkept, -, hread⟩ := h.2.notMoved _ _ _ herror
    rw [haccepted] at hread
    exact ⟨hread, hkept⟩

end Response

end HttpExchange
