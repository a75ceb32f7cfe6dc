import HttpExchange.Body.Transfer
import HttpExchange.File.Store
import HttpExchange.Http.Disposition

/-! Downloads. A body is written to a temporary file beside its destination and
moved into place when it is complete; when something fails before that, the
temporary file is removed. A target that is a directory gets its file name from
the response. `saveDirectly` does without the temporary file. Every step is
recorded together with the state of the file store after it. -/

namespace HttpExchange

/-- One thing that happens in a download. -/
inductive DownloadEvent where
  | askedDirectory (path : Path) (answer : Bool)
  | created (path : Path) (ok : Bool)
  | transferred (event : TransferEvent)
  | renamed (source target : Path) (overwrite ok : Bool)
  | removed (path : Path) (ok : Bool)

/-- Whether the event is an operation of the file store. -/
def DownloadEvent.isOperation : DownloadEvent → Bool
  | transferred _ => false
  | _ => true

/-- An event and the state of the file store after it. -/
structure DownloadStep (σ : Type) where
  event : DownloadEvent
  state : σ

/-- What a download did: its result, its steps, the state of the file store at
the end, and what is left of the body. -/
structure DownloadRun (σ : Type) where
  result : Except BodyError Path
  steps : List (DownloadStep σ)
  state : σ
  body : Source

namespace DownloadRun

variable {σ : Type}

/-- Everything that happens in a run, in order. -/
def events (run : DownloadRun σ) : List DownloadEvent :=
  run.steps.map DownloadStep.event

/-- The operations of the file store that a run performs, in order. -/
def operations (run : DownloadRun σ) : List DownloadEvent :=
  run.events.filter DownloadEvent.isOperation

/-- A run with steps that happened before it. -/
def after (steps : List (DownloadStep σ)) (run : DownloadRun σ) :
    DownloadRun σ :=
  { run with steps := steps ++ run.steps }

end DownloadRun

/-- The file that a download is to end in, and the file beside it that it is
written to. -/
structure Destination where
  final : Path
  temporary : Path
  deriving DecidableEq, Repr

namespace Destination

/-- The suffix of temporary files. -/
def defaultSuffix : Text :=
  ['.', 't', 'e', 'm', 'p']

/-- The destination at a path, whose temporary file has the name of the path
with a suffix; an empty suffix stands for the default. -/
def ofPath (final : Path) (suffix : Text) : Except BodyError Destination :=
  match Path.fileName? final with
  | none => .error (.notAFile final)
  | some name =>
    let suffix := if suffix.isEmpty then defaultSuffix else suffix
    .ok ⟨final, Path.withFileName final (name ++ suffix)⟩

variable {σ : Type} [FileStore σ]

/-- The end of a download that failed: the temporary file is removed. Whether
that succeeds makes no difference to the result. -/
def discard (d : Destination) (error : BodyError) (state : σ) (body : Source) :
    DownloadRun σ :=
  let (answer, last) := FileStore.remove state d.temporary
  ⟨.error error, [⟨.removed d.temporary answer.isOk, last⟩], last, body⟩

/-- The end of a download whose temporary file is complete: it is moved into
place, or stays where it is if that fails. -/
def moveIntoPlace (d : Destination) (state : σ) (body : Source) :
    DownloadRun σ :=
  let (answer, last) := FileStore.rename state d.temporary d.final true
  let step := ⟨.renamed d.temporary d.final true answer.isOk, last⟩
  match answer with
  | .ok () => ⟨.ok d.final, [step], last, body⟩
  | .error e => ⟨.error (.notMoved d.temporary d.final e), [step], last, body⟩

end Destination

/-- The state after an event of a transfer into the file at `path`. -/
def TransferEvent.apply {σ : Type} [FileStore σ] (path : Path) (state : σ) :
    TransferEvent → σ
  | .wrote _ (.ok bytes) => FileStore.append state path bytes
  | _ => state

/-- The steps of a transfer into the file at `path`, and the state after
them. -/
def Transcript.steps {σ : Type} [FileStore σ] (path : Path) :
    σ → Transcript → List (DownloadStep σ) × σ
  | state, [] => ([], state)
  | state, event :: rest =>
    let next := event.apply path state
    let (steps, last) := Transcript.steps path next rest
    (⟨.transferred event, next⟩ :: steps, last)

namespace Response

/-- How the body of a response is transferred. -/
def transfer (r : Response) (earlyEnd : EarlyEnd) : Transfer :=
  { total := r.contentLength?, earlyEnd := earlyEnd }

/-- The body written to a sink that stays open. -/
def deliver (r : Response) (earlyEnd : EarlyEnd) (sink : Sink) : TransferRun :=
  (r.transfer earlyEnd).run r.body sink

/-- The body written to a sink that is closed afterwards. -/
def deliverAndClose (r : Response) (earlyEnd : EarlyEnd) (sink : Sink) :
    TransferRun :=
  (r.transfer earlyEnd).runAndClose r.body sink

/-- The path that a download to `target` ends in. In a directory the file has
the name that the response gives it under `param`. -/
def finalPath (r : Response) (param : Option Text) (target : Path)
    (isDirectory : Bool) : Except BodyError Path :=
  if isDirectory then
    match r.fileName? param with
    | some name => .ok (Path.join target name)
    | none => .error (.noFileName target)
  else .ok target

/-- The destination of a download to `target` through a temporary file. -/
def destination (r : Response) (target : Path) (suffix : Text)
    (isDirectory : Bool) : Except BodyError Destination := do
  Destination.ofPath (← r.finalPath none target isDirectory) suffix

variable {σ : Type} [FileStore σ]

/-- The body downloaded to a destination through its temporary file. -/
def saveAt (r : Response) (earlyEnd : EarlyEnd) (d : Destination) (state : σ) :
    DownloadRun σ :=
  match FileStore.create state d.temporary with
  | (.error e, created) =>
    (d.discard (.io e) created r.body).after
      [⟨.created d.temporary false, created⟩]
  | (.ok sink, created) =>
    let run := r.deliverAndClose earlyEnd sink
    let (steps, written) := run.events.steps d.temporary created
    let ending := match run.result with
      | .error e => d.discard e written run.source
      | .ok _ => d.moveIntoPlace written run.source
    ending.after (⟨.created d.temporary true, created⟩ :: steps)

/-- The body downloaded to `target` through a temporary file. -/
def save (r : Response) (earlyEnd : EarlyEnd) (target : Path) (suffix : Text)
    (state : σ) : DownloadRun σ :=
  let isDirectory := FileStore.isDirectory state target
  let run : DownloadRun σ := match r.destination target suffix isDirectory with
    | .error e => ⟨.error e, [], state, r.body⟩
    | .ok d => r.saveAt earlyEnd d state
  run.after [⟨.askedDirectory target isDirectory, state⟩]

/-- The body downloaded straight into a file. What has been written when
something fails stays there. -/
def saveDirectlyAt (r : Response) (earlyEnd : EarlyEnd) (final : Path)
    (state : σ) : DownloadRun σ :=
  match FileStore.create state final with
  | (.error e, created) =>
    ⟨.error (.io e), [⟨.created final false, created⟩], created, r.body⟩
  | (.ok sink, created) =>
    let run := r.deliverAndClose earlyEnd sink
    let (steps, written) := run.events.steps final created
    ⟨run.result.map fun _ => final, ⟨.created final true, created⟩ :: steps,
      written, run.source⟩

/-- The body downloaded straight to `target`. -/
def saveDirectly (r : Response) (earlyEnd : EarlyEnd) (target : Path)
    (param : Option Text) (state : σ) : DownloadRun σ :=
  let isDirectory := FileStore.isDirectory state target
  let run : DownloadRun σ := match r.finalPath param target isDirectory with
    | .error e => ⟨.error e, [], state, r.body⟩
    | .ok final => r.saveDirectlyAt earlyEnd final state
  run.after [⟨.askedDirectory target isDirectory, state⟩]

end Response

end HttpExchange
