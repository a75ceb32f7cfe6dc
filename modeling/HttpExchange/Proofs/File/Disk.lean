import HttpExchange.File.Disk
import HttpExchange.Proofs.File.Components
import HttpExchange.Proofs.File.View

/-! The files of a disk. A path names the file at the location that its names lead
to, `..` going back by one, whether or not there are directories on the way; a
path that can be followed comes to that location and to no other. The operations
on files take no directory away, so paths that could be followed still can be, and
only what is at the locations of their own paths changes. -/

namespace HttpExchange.Disk

/-! ## Locations -/

/-- The location that a name leads to from another. -/
def LastName.follow (l : Location) : LastName → Location
  | here => l
  | above => l.dropLast
  | name n => l ++ [n]

/-- The location that pieces of a path lead to, one after another. -/
def follow (l : Location) (pieces : List Text) : Location :=
  pieces.foldl (fun l piece => (LastName.of piece).follow l) l

/-- The location that a path leads to. -/
def locate (p : Path) : Location :=
  follow [] (Path.components p).pieces

variable {d d' : Disk} {l k : Location} {p q : Path} {data : Bytes}

theorem follow_concat (l : Location) (pieces : List Text) (piece : Text) :
    follow l (pieces ++ [piece]) =
      (LastName.of piece).follow (follow l pieces) := by
  rw [follow, List.foldl_append]
  rfl

/-- Of the pieces that count for nothing it is enough to leave out those that are
empty: the others lead nowhere. -/
theorem follow_filter (l : Location) (pieces : List Text) :
    follow l (pieces.filter fun piece => !Path.isNoise piece) =
      follow l (pieces.filter fun piece => !piece.isEmpty) := by
  induction pieces generalizing l with
  | nil => rfl
  | cons piece rest ih =>
    by_cases hempty : piece = []
    · subst hempty
      exact ih l
    · rw [List.filter_cons_of_pos (p := fun piece => !List.isEmpty piece)
        (by simp [hempty])]
      by_cases hdot : piece = ['.']
      · subst hdot
        exact ih l
      · rw [List.filter_cons_of_pos (by simp [Path.isNoise, hempty, hdot])]
        exact ih _

theorem locate_eq (p : Path) :
    locate p =
      follow [] ((Text.split '/' p).filter fun piece => !piece.isEmpty) := by
  rw [locate, Path.pieces_components, follow_filter]

/-- The location of a path with a last name ends in that name. -/
theorem locate_of_fileName? {name : Text} (h : Path.fileName? p = some name) :
    locate p = follow [] (Path.above p) ++ [name] := by
  obtain ⟨-, hcounts, habove⟩ := Path.isName_of_fileName? h
  have hhere : name ≠ ['.'] := by
    rintro rfl
    cases hcounts
  rw [locate, Path.components_of_fileName? h, follow_concat, LastName.of,
    if_neg hhere, if_neg habove]
  rfl

theorem locate_ne_of_beside (h : p.Beside q) : locate p ≠ locate q := by
  obtain ⟨-, m, n, hm, hn, hne⟩ := h
  rw [locate_of_fileName? hm, locate_of_fileName? hn]
  intro heq
  exact hne (List.singleton_inj.mp (List.append_inj_right' heq rfl))

/-! ## Following paths -/

theorem enter_eq_ok {n : LastName} (h : d.enter l n = .ok k) :
    d.entry? l = some .directory ∧ k = n.follow l := by
  unfold enter at h
  split at h
  · next hdirectory =>
    refine ⟨hdirectory, ?_⟩
    cases n with
    | name name =>
      simp only at h
      split at h
      · cases h
      · cases h
        rfl
    | _ =>
      cases h
      rfl
  · cases h
  · cases h

theorem walk_eq_ok {pieces : List Text} (h : d.walk l pieces = .ok k) :
    k = follow l pieces := by
  induction pieces generalizing l with
  | nil =>
    cases h
    rfl
  | cons piece rest ih =>
    rw [walk] at h
    split at h
    · cases h
    · next next hnext =>
      obtain ⟨-, rfl⟩ := enter_eq_ok hnext
      exact ih h

/-- The directory part of a path leads to a directory, and the last name leads
from there to the location of the path. -/
theorem place_eq_ok {x : Place} (h : d.place p = .ok x) :
    d.entry? x.directory = some .directory ∧
      x.last.follow x.directory = locate p := by
  rw [locate_eq]
  rw [place] at h
  split at h
  · cases h
  · split at h
    · cases h
    · split at h
      · cases h
      · simp only at h
        generalize ((Text.split '/' p).filter fun piece => !piece.isEmpty) =
          pieces at h ⊢
        split at h
        · cases h
        · next directory hwalk =>
          split at h
          · next hdirectory =>
            cases h
            refine ⟨hdirectory, ?_⟩
            rw [walk_eq_ok hwalk]
            rcases List.eq_nil_or_concat pieces with rfl | ⟨init, last, rfl⟩
            · rfl
            · rw [List.concat_eq_append, List.dropLast_concat,
                List.getLast?_concat, follow_concat]
              rfl
          · cases h
          · cases h

/-- The path can be followed to its end: what comes before its last name leads to
a directory, from which that name leads to the location of the path, and no slash
asks for a directory there. -/
def Follows (d : Disk) (p : Path) : Prop :=
  ∃ x, d.place p = .ok x ∧ d.enter x.directory x.last = .ok (locate p) ∧
    x.slash = false

theorem locate_of_enter {x : Place} (hplace : d.place p = .ok x)
    (henter : d.enter x.directory x.last = .ok l) : l = locate p :=
  (enter_eq_ok henter).2.trans (place_eq_ok hplace).2

theorem follows_of_enter {x : Place} (hplace : d.place p = .ok x)
    (henter : d.enter x.directory x.last = .ok l) (hslash : x.slash = false) :
    d.Follows p := by
  obtain rfl := locate_of_enter hplace henter
  exact ⟨x, hplace, henter, hslash⟩

/-! ## Files -/

/-- The content of an entry that is a file. -/
def data? : DiskEntry → Option Bytes
  | .file data => some data
  | .directory => none

/-- The content of the file at a location. -/
def read? (d : Disk) (l : Location) : Option Bytes :=
  (d.entry? l).bind data?

/-- The content of the file that a path is followed to. -/
def find? (d : Disk) (p : Path) : Option Bytes :=
  match d.resolve p with
  | .ok (_, .file data) => some data
  | _ => none

theorem read?_of_entry? (h : d.entry? l = some (.file data)) :
    d.read? l = some data := by
  rw [read?, h]
  rfl

/-- What is found at a path is the file at its location, if the path can be
followed. -/
theorem find?_eq_some_iff :
    d.find? p = some data ↔
      d.Follows p ∧ d.entry? (locate p) = some (.file data) := by
  rw [find?, resolve, Follows]
  cases hplace : d.place p with
  | error e => simp
  | ok x =>
    cases henter : d.enter x.directory x.last with
    | error e => simp [henter]
    | ok l =>
      obtain rfl := locate_of_enter hplace henter
      cases hentry : d.entry? (locate p) with
      | none => simp [henter, hentry]
      | some entry =>
        cases entry with
        | directory => simp [henter, hentry]
        | file found => cases hslash : x.slash <;> simp [henter, hentry, hslash]

theorem read?_of_find? (h : d.find? p = some data) :
    d.read? (locate p) = some data :=
  read?_of_entry? (find?_eq_some_iff.mp h).2

theorem ne_nil_of_not_directory (h : d.entry? l ≠ some .directory) : l ≠ [] := by
  rintro rfl
  exact h rfl

theorem entry?_put (hl : l ≠ []) (e : DiskEntry) :
    entry? (d.put l e) k = if k = l then some e else d.entry? k := by
  cases k with
  | nil => rw [if_neg (Ne.symm hl)]; rfl
  | cons name rest => exact Sorted.get?_insert l _ e d.entries

theorem entry?_erase (hl : l ≠ []) :
    entry? (d.erase l) k = if k = l then none else d.entry? k := by
  cases k with
  | nil => rw [if_neg (Ne.symm hl)]; rfl
  | cons name rest => exact Sorted.get?_erase l _ d.entries

theorem read?_put (hl : l ≠ []) (e : DiskEntry) :
    (d.put l e).read? k = if k = l then data? e else d.read? k := by
  rw [read?, entry?_put hl, apply_ite (Option.bind · data?)]
  rfl

theorem read?_erase (hl : l ≠ []) :
    (d.erase l).read? k = if k = l then none else d.read? k := by
  rw [read?, entry?_erase hl, apply_ite (Option.bind · data?)]
  rfl

/-! ## Directories that stay -/

/-- Every directory of `d` is one of `d'`. -/
def KeepsDirectories (d d' : Disk) : Prop :=
  ∀ l, d.entry? l = some .directory → d'.entry? l = some .directory

theorem keepsDirectories_put (h : d.entry? l ≠ some .directory) (e : DiskEntry) :
    d.KeepsDirectories (d.put l e) := by
  intro k hk
  rw [entry?_put (ne_nil_of_not_directory h), if_neg, hk]
  rintro rfl
  exact h hk

theorem keepsDirectories_erase (h : d.entry? l ≠ some .directory) :
    d.KeepsDirectories (d.erase l) := by
  intro k hk
  rw [entry?_erase (ne_nil_of_not_directory h), if_neg, hk]
  rintro rfl
  exact h hk

namespace KeepsDirectories

variable (h : d.KeepsDirectories d')

include h

theorem enter {n : LastName} (henter : d.enter l n = .ok k) :
    d'.enter l n = .ok k := by
  have hdirectory := (enter_eq_ok henter).1
  unfold Disk.enter at henter ⊢
  rw [hdirectory] at henter
  rw [h l hdirectory]
  exact henter

theorem walk {pieces : List Text} (hwalk : d.walk l pieces = .ok k) :
    d'.walk l pieces = .ok k := by
  induction pieces generalizing l with
  | nil => exact hwalk
  | cons piece rest ih =>
    rw [Disk.walk] at hwalk ⊢
    split at hwalk
    · cases hwalk
    · next next hnext =>
      rw [h.enter hnext]
      exact ih hwalk

/-- Where a path is placed does not change as long as no directory goes away. -/
theorem place {x : Place} (hplace : d.place p = .ok x) : d'.place p = .ok x := by
  rw [Disk.place] at hplace ⊢
  split at hplace
  · cases hplace
  · next hnul =>
    rw [if_neg hnul]
    split at hplace
    · cases hplace
    · next hempty =>
      rw [if_neg hempty]
      split at hplace
      · cases hplace
      · next hlong =>
        rw [if_neg hlong]
        simp only at hplace ⊢
        split at hplace
        · cases hplace
        · next directory hwalk =>
          rw [h.walk hwalk]
          split at hplace
          · next hdirectory =>
            simp only [h directory hdirectory]
            exact hplace
          · cases hplace
          · cases hplace

/-- A path that can be followed still can be. -/
theorem follows (hp : d.Follows p) : d'.Follows p := by
  obtain ⟨x, hplace, henter, hslash⟩ := hp
  exact ⟨x, h.place hplace, h.enter henter, hslash⟩

end KeepsDirectories

/-- A file that is put where a path leads to is found at the path, and no other
file changes. -/
theorem put_file (hp : d.Follows p) (hfile : d.entry? (locate p) ≠ some .directory)
    (data : Bytes) :
    (d.put (locate p) (.file data)).find? p = some data ∧
      ∀ k, k ≠ locate p → (d.put (locate p) (.file data)).read? k = d.read? k := by
  have hnil := ne_nil_of_not_directory hfile
  refine ⟨find?_eq_some_iff.mpr ⟨(keepsDirectories_put hfile _).follows hp, ?_⟩, ?_⟩
  · rw [entry?_put hnil, if_pos rfl]
  · intro k hk
    rw [read?_put hnil, if_neg hk]

/-- Where a file has been erased, none is found. -/
theorem erase_file (hfile : d.entry? (locate p) ≠ some .directory) :
    (d.erase (locate p)).find? p = none ∧
      ∀ k, k ≠ locate p → (d.erase (locate p)).read? k = d.read? k := by
  have hnil := ne_nil_of_not_directory hfile
  refine ⟨Option.eq_none_iff_forall_ne_some.mpr ?_, ?_⟩
  · intro data hfound
    have hread := read?_of_find? hfound
    rw [read?_erase hnil, if_pos rfl] at hread
    cases hread
  · intro k hk
    rw [read?_erase hnil, if_neg hk]

/-! ## Operations -/

/-- A new directory takes the place of no file. -/
theorem read?_makeDirectory (h : d.makeDirectory p = .ok d') (k : Location) :
    d'.read? k = d.read? k := by
  rw [makeDirectory] at h
  split at h
  · cases h
  · next x hplace =>
    split at h
    · split at h
      · cases h
      · next l henter =>
        split at h
        · cases h
        · next hentry =>
          cases h
          have hnone := Option.not_isSome_iff_eq_none.mp hentry
          rw [read?_put (ne_nil_of_not_directory (by rw [hnone]; nofun))]
          split
          · next heq => rw [heq, read?, hnone]; rfl
          · rfl
    · cases h

theorem read?_makeDirectories {paths : List Path} {result : Except DiskError Unit}
    (h : d.makeDirectories paths = (result, d')) (k : Location) :
    d'.read? k = d.read? k := by
  induction paths generalizing d d' result with
  | nil =>
    cases h
    rfl
  | cons p above ih =>
    rw [makeDirectories] at h
    split at h
    · cases h
      rfl
    · split at h
      · next made hmade =>
        cases h
        exact read?_makeDirectory hmade k
      · split at h
        · next made hmade =>
          cases h
          exact ih hmade
        · next made hmade =>
          split at h
          · next done hdone =>
            cases h
            exact (read?_makeDirectory hdone k).trans (ih hmade)
          · cases h
            exact ih hmade
      · cases h
        rfl

/-- What is opened is an empty file at the location of the path. -/
theorem openFile_eq_ok (h : d.openFile p = .ok d') :
    d.Follows p ∧ d.entry? (locate p) ≠ some .directory ∧
      d' = d.put (locate p) (.file []) := by
  rw [openFile] at h
  split at h
  · cases h
  · next x hplace =>
    split at h
    · next name hlast hslash =>
      split at h
      · cases h
      · next l henter =>
        split at h
        · cases h
        · next hfile =>
          cases h
          have hfollows := follows_of_enter hplace henter hslash
          obtain rfl := locate_of_enter hplace henter
          exact ⟨hfollows, hfile, rfl⟩
    · cases h

/-- The creation of a file changes no other, and if it succeeds the file is found,
and is empty. -/
theorem createFile_eq {result : Except DiskError Unit}
    (h : d.createFile p = (result, d')) :
    (result = .ok () → d'.find? p = some []) ∧
      ∀ k, k ≠ locate p → d'.read? k = d.read? k := by
  rw [createFile] at h
  split at h
  · next e made hmade =>
    cases h
    exact ⟨nofun, fun k _ => read?_makeDirectories hmade k⟩
  · next made hmade =>
    split at h
    · cases h
      exact ⟨nofun, fun k _ => read?_makeDirectories hmade k⟩
    · next opened hopened =>
      cases h
      obtain ⟨hfollows, hfile, rfl⟩ := openFile_eq_ok hopened
      obtain ⟨hfound, hothers⟩ := put_file hfollows hfile []
      refine ⟨fun _ => hfound, ?_⟩
      intro k hk
      rw [hothers k hk, read?_makeDirectories hmade k]

/-- Bytes go to the end of the file that is found. -/
theorem appendFile_eq (h : d.find? p = some data) (bytes : Bytes) :
    d.appendFile p bytes = d.put (locate p) (.file (data ++ bytes)) := by
  obtain ⟨⟨x, hplace, henter, hslash⟩, hentry⟩ := find?_eq_some_iff.mp h
  simp [appendFile, resolve, hplace, henter, hentry, hslash]

/-- A file that is renamed goes to the location of the new path, if that can be
followed. -/
theorem renameEntry_eq_ok (h : d.renameEntry p q = .ok d')
    (hfound : d.find? p = some data) :
    d.Follows q ∧ d.replace (locate p) (locate q) = .ok d' := by
  obtain ⟨⟨x, hx, hsource, -⟩, hentry⟩ := find?_eq_some_iff.mp hfound
  rw [renameEntry] at h
  split at h
  · cases h
  · cases hy : d.place q with
    | error e => simp [hx, hy, bind, Except.bind] at h
    | ok y =>
      simp only [hx, hy, bind, Except.bind, hsource, hentry] at h
      split at h
      · split at h
        · cases h
        · next target htarget =>
          split at h
          · cases h
          · next hslash =>
            split at h
            · cases h
            · split at h
              · cases h
              · have hplain : x.slash = false ∧ y.slash = false := by
                  simpa using hslash
                have hfollows := follows_of_enter hy htarget hplain.2
                obtain rfl := locate_of_enter hy htarget
                exact ⟨hfollows, h⟩
      · cases h

/-- A file takes the place of a file or of nothing. -/
theorem replace_eq_ok {source target : Location}
    (h : d.replace source target = .ok d') (hne : source ≠ target)
    (hentry : d.entry? source = some (.file data)) :
    d.entry? target ≠ some .directory ∧
      d' = (d.erase source).put target (.file data) := by
  rw [replace, if_neg hne, hentry] at h
  cases htarget : d.entry? target with
  | none =>
    rw [htarget] at h
    cases h
    exact ⟨nofun, rfl⟩
  | some entry =>
    rw [htarget] at h
    cases entry with
    | directory => cases h
    | file old =>
      cases h
      exact ⟨nofun, rfl⟩

/-- A file that is renamed is found at its new path, and there is none at its old
location. -/
theorem find?_of_renameEntry (h : d.renameEntry p q = .ok d')
    (hfound : d.find? p = some data) (hne : locate p ≠ locate q) :
    d'.find? q = some data ∧ d'.read? (locate p) = none ∧
      ∀ k, k ≠ locate p → k ≠ locate q → d'.read? k = d.read? k := by
  obtain ⟨-, hentry⟩ := find?_eq_some_iff.mp hfound
  obtain ⟨hfollows, hreplace⟩ := renameEntry_eq_ok h hfound
  obtain ⟨htarget, rfl⟩ := replace_eq_ok hreplace hne hentry
  have hsource : d.entry? (locate p) ≠ some .directory := by
    rw [hentry]
    nofun
  have hnil := ne_nil_of_not_directory hsource
  -- The file is erased before it is put, which takes no directory away.
  obtain ⟨hput, hothers⟩ :=
    put_file ((keepsDirectories_erase hsource).follows hfollows)
      (by rwa [entry?_erase hnil, if_neg (Ne.symm hne)]) data
  refine ⟨hput, ?_, ?_⟩
  · rw [hothers _ hne, read?_erase hnil, if_pos rfl]
  · intro k hk hk'
    rw [hothers k hk', read?_erase hnil, if_neg hk]

/-- Where there is nothing to remove, nothing is found. -/
theorem find?_of_removeFile_noEntry (h : d.removeFile p = .error .noEntry) :
    d.find? p = none := by
  apply Option.eq_none_iff_forall_ne_some.mpr
  intro data hfound
  obtain ⟨⟨x, hplace, henter, hslash⟩, hentry⟩ := find?_eq_some_iff.mp hfound
  rw [removeFile, hplace] at h
  simp only [henter, hentry, hslash] at h
  split at h <;> cases h

/-- What is removed is the file at the location of the path. -/
theorem removeFile_eq_ok (h : d.removeFile p = .ok d') :
    d.entry? (locate p) ≠ some .directory ∧ d' = d.erase (locate p) := by
  rw [removeFile] at h
  split at h
  · cases h
  · next x hplace =>
    split at h
    · split at h
      · cases h
      · next l henter =>
        obtain rfl := locate_of_enter hplace henter
        split at h
        · cases h
        · cases h
        · next data hentry =>
          split at h
          · cases h
          · cases h
            rw [hentry]
            exact ⟨nofun, rfl⟩
    · cases h

/-! ## The view -/

/-- The answer of the disk to a change is that of the change, and without the change
the disk stays as it is. -/
theorem of_answer {change : Except DiskError Disk} {answer : Except IoError Unit}
    (h : d.answer change = (answer, d')) :
    (answer = .ok () ∧ change = .ok d') ∨
      (∃ e, change = .error e ∧ answer = .error e.toIoError) ∧ d' = d := by
  cases change with
  | ok changed =>
    cases h
    exact .inl ⟨rfl, rfl⟩
  | error e =>
    cases h
    exact .inr ⟨⟨e, rfl, rfl⟩, rfl⟩

/-- What the creation of a file comes to, by the answer. -/
theorem of_create {answer : Except IoError Sink}
    (h : FileStore.create d p = (answer, d')) :
    ((∃ sink, answer = .ok sink) → d'.find? p = some []) ∧
      ∀ k, k ≠ locate p → d'.read? k = d.read? k := by
  cases hcreate : d.createFile p with
  | mk result made =>
    simp only [FileStore.create, hcreate, Prod.mk.injEq] at h
    obtain ⟨rfl, rfl⟩ := h
    obtain ⟨hfound, hothers⟩ := createFile_eq hcreate
    refine ⟨?_, hothers⟩
    rintro ⟨sink, hsink⟩
    cases result with
    | ok => exact hfound rfl
    | error e => cases hsink

/-- What the removal of a file comes to, by the answer. -/
theorem of_remove {answer : Except IoError Unit}
    (h : FileStore.remove d p = (answer, d')) :
    (answer = .ok () → d'.find? p = none) ∧
      ∀ k, k ≠ locate p → d'.read? k = d.read? k := by
  change d.remove p = _ at h
  rw [remove] at h
  split at h
  · next hnone =>
    cases h
    exact ⟨fun _ => find?_of_removeFile_noEntry hnone, fun _ _ => rfl⟩
  · rcases of_answer h with ⟨-, hremoved⟩ | ⟨⟨e, -, rfl⟩, rfl⟩
    · obtain ⟨hfile, rfl⟩ := removeFile_eq_ok hremoved
      exact ⟨fun _ => (erase_file hfile).1, (erase_file hfile).2⟩
    · exact ⟨nofun, fun _ _ => rfl⟩

/-- Paths name the files at their locations. -/
def view : FileView Disk Location where
  file := locate
  read? := read?
  find? := find?
  read?_of_find? := read?_of_find?
  file_ne_of_beside := locate_ne_of_beside
  create_ok h := ⟨(of_create h).1 ⟨_, rfl⟩, (of_create h).2⟩
  create_error h := (of_create h).2
  append {d p data} bytes h := by
    obtain ⟨hfollows, hentry⟩ := find?_eq_some_iff.mp h
    change (d.appendFile p bytes).find? p = _ ∧
      ∀ k, _ → (d.appendFile p bytes).read? k = _
    rw [appendFile_eq h]
    exact put_file hfollows (by rw [hentry]; nofun) _
  rename_ok h hne hdata := by
    rcases of_answer h with ⟨-, h⟩ | ⟨⟨e, -, h⟩, -⟩
    · exact find?_of_renameEntry h hdata hne
    · cases h
  rename_error h := by
    rcases of_answer h with ⟨h, -⟩ | ⟨-, rfl⟩
    · cases h
    · exact ⟨fun _ => rfl, rfl⟩
  remove_ok h := ⟨(of_remove h).1 rfl, (of_remove h).2⟩
  remove_error h := (of_remove h).2

end HttpExchange.Disk
