import HttpExchange.Proofs.Download.Destination
import HttpExchange.Proofs.File.Inside
import HttpExchange.Proofs.Http.Disposition

/-! Downloads stay in their directory. A download to a directory gets its file
name from a header, and whatever the header says, both the file and its temporary
file are entries of that directory. -/

namespace HttpExchange

/-- The default suffix makes a longer name of a name. -/
theorem Destination.isName_append_defaultSuffix {name : Text}
    (h : Path.IsName name) : Path.IsName (name ++ defaultSuffix) :=
  h.append (by decide)

namespace Response

/-- A download to a directory goes to the name that the response gives. -/
theorem finalPath_directory {r : Response} {param : Option Text} {name : Text}
    (h : r.fileName? param = some name) (target : Path) :
    r.finalPath param target true = .ok (Path.join target name) := by
  rw [finalPath, if_pos rfl, h]

/-- The file of a download to a directory and its temporary file are inside the
directory. -/
theorem destination_isInside {name : Text} (h : Path.IsName name)
    (target : Path) :
    ∃ d, Destination.ofPath (Path.join target name) [] = .ok d ∧
      d.final = Path.join target name ∧
      Path.IsInside target name d.final ∧
      Path.IsInside target (name ++ Destination.defaultSuffix) d.temporary := by
  have hfinal := Path.isInside_join h target
  have htemporary :=
    hfinal.withFileName (Destination.isName_append_defaultSuffix h)
  refine ⟨⟨Path.join target name, Path.withFileName (Path.join target name)
    (name ++ Destination.defaultSuffix)⟩, ?_, rfl, hfinal, htemporary⟩
  rw [Destination.ofPath, hfinal.fileName]
  rfl

/-- No header places a download outside of the directory it goes to. The name
that a header gives is the name of a file and no more; joined to a directory it
is the last name of a path in that directory, and so is the name of the
temporary file. -/
theorem fileName?_confined (header param name : Text)
    (h : Disposition.fileName? header param = some name) :
    Disposition.IsPlainName name ∧
    ∀ (r : Response) (asked : Option Text) (target : Path),
      r.header? "content-disposition".toList = some header →
      asked.getD fileNameParameter = param →
      ∃ d, r.finalPath asked target true = .ok d.final ∧
        Destination.ofPath d.final [] = .ok d ∧
        Path.IsInside target name d.final ∧
        Path.IsInside target (name ++ Destination.defaultSuffix) d.temporary := by
  have hplain := Disposition.isPlainName_of_fileName? h
  refine ⟨hplain, ?_⟩
  rintro r asked target hheader rfl
  have hname : r.fileName? asked = some name := by
    rw [fileName?, hheader]
    exact h
  obtain ⟨d, hd, hjoin, hfinal, htemporary⟩ :=
    destination_isInside hplain.isName target
  refine ⟨d, ?_, ?_, hfinal, htemporary⟩
  · rw [finalPath_directory hname, hjoin]
  · rw [hjoin, hd]

/-- Separators, dots and spaces that only the escapes bring in, and a directory
whose spelling ends in what counts for nothing. -/
theorem fileName?_confined_escapes :
    Disposition.fileName?
        "attachment; filename*=utf-8\x27\x27..%2F%2e%2e%5C%20evil%2E%20".toList
        "filename".toList = some "evil.".toList ∧
    Disposition.IsPlainName "evil.".toList ∧
    Path.IsInside "saved/./".toList "evil.".toList
      "saved/./evil.".toList := by
  have h : Disposition.fileName?
      "attachment; filename*=utf-8\x27\x27..%2F%2e%2e%5C%20evil%2E%20".toList
      "filename".toList = some "evil.".toList := by decide +kernel
  obtain ⟨hplain, hinside⟩ := fileName?_confined _ _ _ h
  refine ⟨h, hplain, ?_⟩
  obtain ⟨r, hheader⟩ : ∃ r : Response,
      r.header? "content-disposition".toList = some
        "attachment; filename*=utf-8\x27\x27..%2F%2e%2e%5C%20evil%2E%20".toList :=
    ⟨⟨[⟨"content-disposition".toList, Text.asciiBytes
      "attachment; filename*=utf-8\x27\x27..%2F%2e%2e%5C%20evil%2E%20".toList⟩],
      []⟩, by decide +kernel⟩
  obtain ⟨d, hfinal, -, hd, -⟩ := hinside r none "saved/./".toList hheader rfl
  have hname : r.fileName? none = some "evil.".toList := by
    rw [fileName?, hheader, Option.bind_some]
    exact h
  rw [finalPath_directory hname] at hfinal
  rw [← Except.ok.inj hfinal] at hd
  exact hd

end Response

end HttpExchange
