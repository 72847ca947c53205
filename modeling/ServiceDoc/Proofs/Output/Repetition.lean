import ServiceDoc.Proofs.FileTree.Repetition
import ServiceDoc.Proofs.Output.Publication
/-!
# Publishing again

What was published is published once more without a change. Each of the two files is found where it
is to be written, with the content that it is to have, and the directory on the way is there.
-/

namespace ServiceDoc.Output

variable {files : FileTree} {document : Json} {directory : Path} {withPage : Bool}

/-- What writing a text leads to where it is there already. -/
theorem writeText_of_present {name text : String} {place : Place}
    (htarget : files.target (directory.child name) = .ok (.name place))
    (hentry : files.entry? place = some (.file (Text.utf8 text.toList))) :
    writeText files directory name text =
      ⟨files, [writtenRecord (directory.child name)], .ok (directory.child name)⟩ := by
  have hplace : files.entry? place ≠ some .directory := by
    rw [hentry]
    simp
  rw [writeText_of_target text (FileTree.ensureDirectories_of_target_child htarget) htarget hplace,
    FileTree.set_eq_self hentry]

/-- What publishing leads to where the files are there already. -/
theorem generate_of_present {place : Place}
    (htarget : files.target (directory.child documentName) = .ok (.name (place ++ [documentName])))
    (hentry : files.entry? (place ++ [documentName]) =
      some (.file (Text.utf8 document.documentText.toList)))
    (hpage : withPage = true → ∃ title, Page.title document = .ok title ∧
      files.entry? (place ++ [pageName]) =
        some (.file (Text.utf8 (Page.render title documentName).toList))) :
    generate files document directory withPage =
      let paths := (writtenNames withPage).map directory.child
      ⟨files, paths.map writtenRecord, .ok paths⟩ := by
  have hdocument : writeDocument files document directory =
      ⟨files, [writtenRecord (directory.child documentName)],
        .ok (directory.child documentName)⟩ :=
    writeText_of_present htarget hentry
  have houtcome := congrArg Written.outcome hdocument
  cases withPage with
  | false =>
      rw [generate_of_ok_false houtcome, hdocument]
      rfl
  | true =>
      obtain ⟨title, htitle, hcontent⟩ := hpage rfl
      have hpageTarget : files.target (directory.child pageName) =
          .ok (.name (place ++ [pageName])) :=
        FileTree.target_child_of_le htarget (by decide) (by decide) (by decide)
      rw [generate_of_ok_true houtcome, hdocument, writePage_of_ok htitle,
        writeText_of_present hpageTarget hcontent]
      rfl

/-- A successful publication leads to the same once more, and leaves the files as they are then. -/
theorem generate_generate {paths : List Path}
    (h : (generate files document directory withPage).outcome = .ok paths) :
    generate (generate files document directory withPage).files document directory withPage =
      generate files document directory withPage := by
  obtain ⟨rfl, hlog, place, htarget, hentry, hpage⟩ := exists_written_of_generate h
  rw [generate_of_present htarget hentry hpage]
  dsimp only
  rw [← hlog, ← h]

end ServiceDoc.Output
