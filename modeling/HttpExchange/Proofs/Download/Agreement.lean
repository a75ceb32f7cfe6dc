import HttpExchange.Proofs.Download.CrashSafety
import HttpExchange.Proofs.Download.Unfailing

/-! The ways to get at a body agree. A download through a temporary file, one
straight into its file, and the delivery into a sink in memory come to the same
result and tell their observer the same, as long as nothing fails in the file
store, and what the files then hold is what was delivered. Each of the downloads
is compared with the delivery, and `Runs.of_faultless` does that for the transfer
in it. -/

namespace HttpExchange

/-! ## Events of a download -/

namespace DownloadEvent

/-- The notification that an event is. -/
def notification? : DownloadEvent → Option Notification
  | transferred event => event.notification?
  | _ => none

end DownloadEvent

namespace DownloadRun

variable {σ : Type} {run : DownloadRun σ} {copied : Transcript}

/-- What the observer of a download is told, in order. -/
def notifications (run : DownloadRun σ) : List Notification :=
  run.events.filterMap DownloadEvent.notification?

/-- Only the transfer of a download tells something. -/
theorem notifications_of_events {early late : List DownloadEvent}
    (hevents : run.events = early ++ copied.map .transferred ++ late)
    (hearly : early.filterMap DownloadEvent.notification? = [])
    (hlate : late.filterMap DownloadEvent.notification? = []) :
    run.notifications = copied.notifications := by
  rw [notifications, hevents, List.filterMap_append, List.filterMap_append,
    hearly, hlate, List.filterMap_map, List.nil_append, List.append_nil]
  rfl

end DownloadRun

/-! ## Downloads -/

namespace Response

/-- The transfer of a download in which nothing fails agrees with the delivery. -/
theorem deliverAndClose_agrees {σ : Type} {run : DownloadRun σ} {r : Response}
    {earlyEnd : EarlyEnd} {sink : Sink} {early late : List DownloadEvent}
    (hok : run.Unfailing)
    (hevents : run.events = early ++
      (r.deliverAndClose earlyEnd sink).events.map .transferred ++ late) :
    (r.deliverAndClose earlyEnd sink).Agrees (r.deliver earlyEnd {}) :=
  Transfer.runAndClose_agrees
    ((DownloadRun.unfailing_iff_of_events hevents).mp hok).1.2

variable {σ κ : Type} [FileStore σ] {view : FileView σ κ} {r : Response}
  {earlyEnd : EarlyEnd} {final : Path} {d : Destination} {state : σ}
  {run : DownloadRun σ}

/-- What a download to `final` has in common with the delivery of the body into
memory. -/
structure AgreesWithDelivery (view : FileView σ κ) (r : Response)
    (earlyEnd : EarlyEnd) (final : Path) (run : DownloadRun σ) : Prop where
  result : run.result = (r.deliver earlyEnd {}).result.map fun _ => final
  notifications : run.notifications =
    (r.deliver earlyEnd {}).events.notifications
  /-- After a success the file holds what was delivered. -/
  ok : ∀ path, run.result = .ok path →
    view.read? run.state (view.file final) =
      some (r.deliver earlyEnd {}).events.accepted

/-- A download whose transfer has been recorded agrees with the delivery if it ends
as the transfer does. -/
theorem agreesWithDelivery_of_events {sink : Sink}
    {early late : List DownloadEvent} (hok : run.Unfailing)
    (hevents : run.events = early ++
      (r.deliverAndClose earlyEnd sink).events.map .transferred ++ late)
    (hearly : early.filterMap DownloadEvent.notification? = [])
    (hlate : late.filterMap DownloadEvent.notification? = [])
    (hresult : run.result =
      (r.deliverAndClose earlyEnd sink).result.map fun _ => final)
    (hread : ∀ path, run.result = .ok path →
      view.read? run.state (view.file final) =
        some (r.deliverAndClose earlyEnd sink).events.accepted) :
    r.AgreesWithDelivery view earlyEnd final run := by
  have hagrees := deliverAndClose_agrees hok hevents
  refine ⟨?_, ?_, ?_⟩
  · rw [hresult, hagrees.result]
  · rw [DownloadRun.notifications_of_events hevents hearly hlate,
      hagrees.notifications]
  · intro path hpath
    rw [hread path hpath, hagrees.accepted]

/-- A download straight into its file agrees with the delivery, and whether or not
it succeeds, the file holds what was delivered. -/
theorem SavesDirectly.agreesWithDelivery
    (h : r.SavesDirectly earlyEnd final state run) (hok : run.Unfailing) :
    r.AgreesWithDelivery view earlyEnd final run ∧
      view.read? run.state (view.file final) =
        some (r.deliver earlyEnd {}).events.accepted := by
  cases h with
  | notCreated hcreate => exact absurd (hok _ List.mem_cons_self) nofun
  | @copied sink created steps written hcreate hsteps =>
    obtain ⟨-, -, hfound⟩ :=
      FileView.of_steps (view.create_ok hcreate).1 hsteps
    have hread := view.read?_of_find? hfound
    rw [List.nil_append] at hread
    refine ⟨agreesWithDelivery_of_events hok (events_of_copied hsteps) rfl rfl rfl
      fun _ _ => hread, ?_⟩
    rw [hread, (deliverAndClose_agrees hok (events_of_copied hsteps)).accepted]

/-- A download through a temporary file agrees with the delivery. -/
theorem Saves.agreesWithDelivery (h : r.Saves earlyEnd d state run)
    (hne : view.file d.temporary ≠ view.file d.final) (hok : run.Unfailing) :
    r.AgreesWithDelivery view earlyEnd d.final run := by
  cases h with
  | notCreated hcreate hremove => exact absurd (hok _ List.mem_cons_self) nofun
  | notCopied hcreate hresult hsteps hremove =>
    refine agreesWithDelivery_of_events hok (events_of_ended hsteps) rfl rfl ?_
      nofun
    rw [hresult]
    rfl
  | notMoved hcreate hresult hsteps hrename =>
    have hfailed := hok (.renamed d.temporary d.final true false)
    rw [events_of_ended hsteps] at hfailed
    exact absurd (hfailed List.mem_concat_self) nofun
  | moved hcreate hresult hsteps hrename =>
    refine agreesWithDelivery_of_events hok (events_of_ended hsteps) rfl rfl ?_ ?_
    · rw [hresult]
      rfl
    · intro path _
      obtain ⟨-, -, hfound⟩ :=
        FileView.of_steps (view.create_ok hcreate).1 hsteps
      exact view.read?_of_find? (view.rename_ok hrename hne hfound).1

/-! ## From the target on -/

/-- Asking about the target tells nothing. -/
theorem AgreesWithDelivery.after_asked {target : Path} {isDirectory : Bool}
    (h : r.AgreesWithDelivery view earlyEnd final run) :
    r.AgreesWithDelivery view earlyEnd final
      (run.after [⟨.askedDirectory target isDirectory, state⟩]) :=
  ⟨h.result, h.notifications, h.ok⟩

/-- A final path with a name is that of a destination, whose temporary file is
another file. -/
theorem destination_of_finalPath {target : Path} {name : Text}
    {isDirectory : Bool} (view : FileView σ κ)
    (hfinal : r.finalPath none target isDirectory = .ok final)
    (hname : Path.fileName? final = some name) :
    ∃ d, r.destination target [] isDirectory = .ok d ∧ d.final = final ∧
      view.file d.temporary ≠ view.file d.final := by
  have hd : Destination.ofPath final [] = .ok ⟨final, Path.withFileName final
      (name ++ Destination.defaultSuffix)⟩ := by
    rw [Destination.ofPath, hname]
    rfl
  refine ⟨_, ?_, rfl, view.file_ne_of_beside
    (Destination.beside_of_ofPath hd List.not_mem_nil)⟩
  rw [destination, hfinal]
  exact hd

theorem saveDirectly_agreesWithDelivery {target : Path} {param : Option Text}
    (view : FileView σ κ)
    (hfinal : r.finalPath param target (FileStore.isDirectory state target) =
      .ok final)
    (hok : (r.saveDirectly earlyEnd target param state).Unfailing) :
    r.AgreesWithDelivery view earlyEnd final
        (r.saveDirectly earlyEnd target param state) ∧
      view.read? (r.saveDirectly earlyEnd target param state).state
          (view.file final) =
        some (r.deliver earlyEnd {}).events.accepted := by
  rw [saveDirectly_of_finalPath hfinal] at hok ⊢
  obtain ⟨hagrees, hread⟩ := (savesDirectly_saveDirectlyAt r earlyEnd final
    state).agreesWithDelivery
      (DownloadRun.unfailing_after_iff.mp hok).2
  exact ⟨hagrees.after_asked, hread⟩

theorem save_agreesWithDelivery {target : Path} {name : Text}
    (view : FileView σ κ)
    (hfinal : r.finalPath none target (FileStore.isDirectory state target) =
      .ok final)
    (hname : Path.fileName? final = some name)
    (hok : (r.save earlyEnd target [] state).Unfailing) :
    r.AgreesWithDelivery view earlyEnd final
      (r.save earlyEnd target [] state) := by
  obtain ⟨d, hd, rfl, hne⟩ := destination_of_finalPath view hfinal hname
  rw [save_of_destination hd] at hok ⊢
  exact ((saves_saveAt r earlyEnd d state).agreesWithDelivery hne
    (DownloadRun.unfailing_after_iff.mp hok).2).after_asked

/-- **The ways to get at a body agree.** Let `target` lead to a path with a file
name, and nothing fail in the file store. Then a download straight to the target,
one through a temporary file, and the delivery of the body into memory tell their
observer the same, and succeed or fail together, the downloads with that path and
all three with the same error. The first leaves in its file what was delivered, be
it whole or not, and so does the second if it succeeds. -/
theorem downloads_agree (view : FileView σ κ) (r : Response)
    (earlyEnd : EarlyEnd) (target final : Path) (name : Text) (state : σ)
    (hfinal : r.finalPath none target (FileStore.isDirectory state target) =
      .ok final)
    (hname : Path.fileName? final = some name)
    (hdirect : (r.saveDirectly earlyEnd target none state).Unfailing)
    (hsaved : (r.save earlyEnd target [] state).Unfailing) :
    let delivered := r.deliver earlyEnd {}
    let direct := r.saveDirectly earlyEnd target none state
    let saved := r.save earlyEnd target [] state
    (direct.notifications = delivered.events.notifications ∧
      saved.notifications = delivered.events.notifications) ∧
    (direct.result = delivered.result.map (fun _ => final) ∧
      saved.result = delivered.result.map fun _ => final) ∧
    view.read? direct.state (view.file final) =
      some delivered.events.accepted ∧
    ∀ path, saved.result = .ok path →
      view.read? saved.state (view.file final) =
        some delivered.events.accepted := by
  intro delivered direct saved
  obtain ⟨hagreesDirect, hread⟩ :=
    saveDirectly_agreesWithDelivery view hfinal hdirect
  have hagreesSaved := save_agreesWithDelivery view hfinal hname hsaved
  exact ⟨⟨hagreesDirect.notifications, hagreesSaved.notifications⟩,
    ⟨hagreesDirect.result, hagreesSaved.result⟩, hread, hagreesSaved.ok⟩

/-- A body cut short, which is accepted, in a directory. Files take one byte of the
first write, and the second is interrupted. -/
theorem downloads_agree_cut_short :
    let r : Response := ⟨[⟨"content-disposition".toList,
        Text.asciiBytes "attachment; filename=b".toList⟩],
      [.piece [1, 2], .piece [3], .fail (.bare .unexpectedEof)]⟩
    let m : Memory := {
      files := [("d/b".toList, [9])]
      directories := ["d".toList]
      sink := { writes := [.accept 1, .fail (.bare .interrupted)] } }
    let direct := r.saveDirectly .accept "d".toList none m
    let saved := r.save .accept "d".toList [] m
    (r.finalPath none "d".toList (FileStore.isDirectory m "d".toList) =
        .ok "d/b".toList ∧
      Path.fileName? "d/b".toList = some "b".toList ∧
      direct.Unfailing ∧ saved.Unfailing) ∧
    direct.result = saved.result ∧
    direct.state.read? "d/b".toList = some [1, 2, 3] := by
  intro r m direct saved
  have hfinal : r.finalPath none "d".toList
      (FileStore.isDirectory m "d".toList) = .ok "d/b".toList := by
    decide +kernel
  have hname : Path.fileName? "d/b".toList = some "b".toList := by decide +kernel
  have hm : m.Reliable := ⟨rfl, rfl, rfl, by decide, rfl⟩
  have hdirect := hm.saveDirectly_unfailing r .accept "d".toList none
  have hsaved := hm.save_unfailing r .accept "d".toList []
  obtain ⟨-, ⟨hresultDirect, hresultSaved⟩, hread, -⟩ := downloads_agree
    Memory.view r .accept "d".toList "d/b".toList "b".toList m hfinal hname
    hdirect hsaved
  have haccepted : (r.deliver .accept {}).events.accepted = [1, 2, 3] := by
    decide +kernel
  rw [haccepted] at hread
  exact ⟨⟨hfinal, hname, hdirect, hsaved⟩,
    hresultDirect.trans hresultSaved.symm, hread⟩

end Response

end HttpExchange
