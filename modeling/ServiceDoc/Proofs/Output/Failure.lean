import ServiceDoc.Proofs.FileTree.Fault
import ServiceDoc.Proofs.Output.Publication
import ServiceDoc.Swagger.Document
/-!
# What a failure leaves

A publication that fails has made directories on the way, and nothing else, unless the document was
written and its page was not: then the document is there as a whole (`IsAbandoned`). The page is
never there, as it is the last thing to be written. A document of entity sets has a title, so what
fails for it is always something about the files.
-/

namespace ServiceDoc.Output

open FileTree (Filled Fate)

/-- A place is a new directory on the way to another one. -/
def IsNewOnWay (before after : FileTree) (directory : Path) (q : Place) : Prop :=
  before.entry? q = none ∧ after.entry? q = some .directory ∧
    ∃ a : Path, a.IsOnWayTo directory ∧ after.target a = .ok (.name q)

/-- Files before and after a document could not be published in a directory. -/
structure IsAbandoned (before after : FileTree) (directory : Path) (document : Json) : Prop where
  /-- The document is written as a whole or not at all. Only where the path of the directory passes
  through its place and leaves it again, a directory may be new there. -/
  document_kept : ∀ q, after.target (directory.child "swagger.json") = .ok (.name q) →
    after.entry? q = before.entry? q ∨
      (∃ bytes, after.entry? q = some (.file bytes) ∧
        bytes = Text.utf8 document.documentText.toList ∧ Json.ofBytes? bytes = some document) ∨
      ".." ∈ directory.segments ∧ IsNewOnWay before after directory q
  /-- The page is not touched, with the same exception. -/
  page_kept : ∀ q, after.target (directory.child "index.html") = .ok (.name q) →
    after.entry? q = before.entry? q ∨
      ".." ∈ directory.segments ∧ IsNewOnWay before after directory q
  others_kept : ∀ q, after.target (directory.child "swagger.json") ≠ .ok (.name q) →
    after.entry? q = before.entry? q ∨ IsNewOnWay before after directory q
  directories_stay : ∀ q, before.entry? q = some .directory → after.entry? q = some .directory
  files_stay : ∀ q bytes, before.entry? q = some (.file bytes) →
    ∃ bytes', after.entry? q = some (.file bytes')

/-! ## The files -/

section Files

variable {files : FileTree} {document : Json} {directory : Path} {withPage : Bool}
  {e : OutputError}

/-- A text that is not written leaves no file. -/
theorem filled_writeText_of_error {name text : String}
    (h : (writeText files directory name text).outcome = .error e) :
    Filled directory [] files (writeText files directory name text).files := by
  have hmade := Filled.ensureDirectories files directory
  rw [writeText] at h ⊢
  cases hways : files.ensureDirectories directory with
  | mk made outcome =>
      rw [hways] at h hmade
      cases outcome with
      | error f => exact hmade
      | ok _ =>
          dsimp only at h ⊢
          cases hwrite : made.write (directory.child name) (Text.utf8 text.toList) with
          | error f => exact hmade
          | ok written =>
              rw [hwrite] at h
              cases h

theorem filled_writePage_of_error {file : Json}
    (h : (writePage files document directory file).outcome = .error e) :
    Filled directory [] files (writePage files document directory file).files := by
  rw [writePage] at h ⊢
  cases htitle : Page.title document with
  | error kind => exact .refl files
  | ok title =>
      rw [htitle] at h
      exact filled_writeText_of_error h

/-- Whatever fails, no file was written after the document. -/
theorem filled_generate_of_error
    (h : (generate files document directory withPage).outcome = .error e) :
    Filled directory [] files (generate files document directory withPage).files ∨
      ∃ path, (writeDocument files document directory).outcome = .ok path ∧
        Filled directory [] (writeDocument files document directory).files
          (generate files document directory withPage).files := by
  cases houtcome : (writeDocument files document directory).outcome with
  | error x =>
      rw [generate_of_error withPage houtcome]
      exact .inl (filled_writeText_of_error houtcome)
  | ok path =>
      refine .inr ⟨path, rfl, ?_⟩
      cases withPage with
      | false =>
          rw [generate_of_ok_false houtcome] at h
          cases h
      | true =>
          rw [generate_of_ok_true houtcome] at h ⊢
          dsimp only at h ⊢
          cases hpage : (writePage (writeDocument files document directory).files document
              directory (.str documentName)).outcome with
          | error x => exact filled_writePage_of_error hpage
          | ok page =>
              rw [hpage] at h
              cases h

/-- What was there or was written before is kept, where nothing but directories are made. -/
theorem isNewOnWay_of_filled {before after : FileTree} (h : Filled directory [] before after)
    (q : Place) :
    after.entry? q = before.entry? q ∨ IsNewOnWay before after directory q := by
  cases h.fate q with
  | kept hkept => exact .inl hkept
  | directory a hbefore hafter ha htarget => exact .inr ⟨hbefore, hafter, a, ha, htarget⟩
  | file _ _ _ _ hname => cases hname

/-- What becomes of a place when a publication fails: it is kept, it is new on the way, or it holds
the document. -/
theorem fate_of_generate_eq_error
    (h : (generate files document directory withPage).outcome = .error e) (q : Place) :
    let after := (generate files document directory withPage).files
    after.entry? q = files.entry? q ∨ IsNewOnWay files after directory q ∨
      after.target (directory.child documentName) = .ok (.name q) ∧
        after.entry? q = some (.file (Text.utf8 document.documentText.toList)) := by
  intro after
  rcases filled_generate_of_error h with hfilled | ⟨path, houtcome, hfilled⟩
  · exact (isNewOnWay_of_filled hfilled q).imp_right .inl
  · obtain ⟨-, -, above, htarget, hentry⟩ := exists_entry?_writeText houtcome
    have hwritten := filled_writeText files directory documentName document.documentText
    rcases isNewOnWay_of_filled hfilled q with hkept | hnew
    · cases hwritten.fate q with
      | kept hbefore => exact .inl (hkept.trans hbefore)
      | directory a hbefore hafter ha hq =>
          exact .inr (.inl ⟨hbefore, hkept.trans hafter, a, ha, hfilled.target hq⟩)
      | file name _ _ _ hname hq =>
          rw [List.mem_singleton] at hname
          subst hname
          obtain rfl : above ++ [documentName] = q := by
            rw [htarget] at hq
            cases hq
            rfl
          exact .inr (.inr ⟨hfilled.target htarget, hkept.trans hentry⟩)
    · obtain ⟨hbefore, hafter, hway⟩ := hnew
      refine .inr (.inl ⟨?_, hafter, hway⟩)
      cases hwritten.fate q with
      | kept hkept => rw [← hkept]; exact hbefore
      | directory _ _ hdirectory =>
          rw [← writeDocument, hbefore] at hdirectory
          cases hdirectory
      | file _ _ _ hfile =>
          rw [← writeDocument, hbefore] at hfile
          cases hfile

/-- A name in a directory is new on the way to it only where the path leaves the place again. -/
theorem parent_mem_of_isNewOnWay {before after : FileTree} {name : String} {q : Place}
    (h : IsNewOnWay before after directory q)
    (hq : after.target (directory.child name) = .ok (.name q)) : ".." ∈ directory.segments := by
  obtain ⟨-, -, a, ha, htarget⟩ := h
  by_contra hup
  exact FileTree.target_ne_of_isOnWayTo hup ha hq htarget

theorem isAbandoned_of_error (h : (generate files document directory withPage).outcome = .error e) :
    IsAbandoned files (generate files document directory withPage).files directory document := by
  have hfate := fate_of_generate_eq_error h
  have hfilled := filled_generate files document directory withPage
  constructor
  · intro q hq
    rcases hfate q with hkept | hnew | ⟨-, hentry⟩
    · exact .inl hkept
    · exact .inr (.inr ⟨parent_mem_of_isNewOnWay hnew hq, hnew⟩)
    · exact .inr (.inl ⟨_, hentry, rfl, Json.ofBytes?_utf8_documentText document⟩)
  · intro q hq
    rcases hfate q with hkept | hnew | ⟨htarget, -⟩
    · exact .inl hkept
    · exact .inr ⟨parent_mem_of_isNewOnWay hnew hq, hnew⟩
    · obtain ⟨above, hpage, hdocument⟩ := FileTree.exists_above_of_target_child hq htarget
      rw [hpage] at hdocument
      exact absurd (List.append_inj_right' hdocument rfl) (by decide)
  · intro q hq
    rcases hfate q with hkept | hnew | ⟨htarget, -⟩
    · exact .inl hkept
    · exact .inr hnew
    · exact absurd htarget hq
  · intro q
    exact hfilled.entry?_directory
  · intro q bytes
    exact hfilled.exists_entry?_file

end Files

/-! ## The error -/

section Error

variable {files : FileTree} {document : Json} {directory : Path} {withPage : Bool}
  {e : OutputError}

/-- An error that the system has told, with its number. -/
def OutputError.IsNumbered (e : OutputError) : Prop :=
  ∃ f path n, e = .file f path ∧ f.number? = some n

theorem isNumbered_of_writeText_eq_error {name text : String}
    (hnul : '\x00' ∉ directory.toText.toList) (hname : '\x00' ∉ name.toList)
    (h : (writeText files directory name text).outcome = .error e) : e.IsNumbered := by
  rw [writeText] at h
  cases hways : files.ensureDirectories directory with
  | mk made outcome =>
      rw [hways] at h
      cases outcome with
      | error x =>
          obtain ⟨f, path⟩ := x
          obtain ⟨n, hn⟩ := FileTree.exists_number_of_ensureDirectories_eq_error hnul
            (congrArg Prod.snd hways)
          exact ⟨f, path, n, (Except.error.inj h).symm, hn⟩
      | ok _ =>
          dsimp only at h
          have hchild := Path.notMem_toText_child (by decide) (by decide) hnul hname
          cases hwrite : made.write (directory.child name) (Text.utf8 text.toList) with
          | error f =>
              rw [hwrite] at h
              obtain ⟨n, hn⟩ := FileTree.exists_number_of_write_eq_error hchild hwrite
              exact ⟨f, _, n, (Except.error.inj h).symm, hn⟩
          | ok written =>
              rw [hwrite] at h
              cases h

/-- What fails is something about the files, or the document has no title for its page. -/
theorem isNumbered_or_of_generate_eq_error (hnul : '\x00' ∉ directory.toText.toList)
    (h : (generate files document directory withPage).outcome = .error e) :
    e.IsNumbered ∨ withPage = true ∧
      ∃ kind, e = .noMembers kind ∧ Page.title document = .error kind := by
  cases houtcome : (writeDocument files document directory).outcome with
  | error x =>
      rw [generate_of_error withPage houtcome] at h
      obtain rfl := Except.error.inj h
      exact .inl (isNumbered_of_writeText_eq_error hnul (by decide) houtcome)
  | ok path =>
      cases withPage with
      | false =>
          rw [generate_of_ok_false houtcome] at h
          cases h
      | true =>
          rw [generate_of_ok_true houtcome] at h
          dsimp only at h
          cases htitle : Page.title document with
          | error kind =>
              rw [writePage, htitle] at h
              exact .inr ⟨rfl, kind, (Except.error.inj h).symm, rfl⟩
          | ok title =>
              rw [writePage_of_ok htitle] at h
              cases hpage : (writeText (writeDocument files document directory).files directory
                  pageName (Page.render title documentName)).outcome with
              | error x =>
                  rw [hpage] at h
                  obtain rfl := Except.error.inj h
                  exact .inl (isNumbered_of_writeText_eq_error hnul (by decide) hpage)
              | ok page =>
                  rw [hpage] at h
                  cases h

/-- The document of entity sets has a title, whatever they are. -/
theorem title_ofSets (sets : List Csdl.EntitySet) (options : Swagger.Options) :
    Page.title (Swagger.Document.ofSets sets options).toJson = .ok Swagger.Document.title := by
  obtain ⟨host, basePath⟩ := options
  cases host <;> cases basePath <;>
    simp [Swagger.Document.ofSets, Swagger.Document.toJson, Swagger.Document.optionMember,
      Page.title, List.lookup_cons, Json.plain]

end Error

/-! ## Both -/

section Obstructed

variable {files made : FileTree} {directory : Path} {name : String} {place : Place}

/-- A text is not written where a directory stands. -/
theorem writeText_of_directory (text : String)
    (hmade : files.ensureDirectories directory = (made, .ok ()))
    (htarget : made.target (directory.child name) = .ok (.name place))
    (hplace : made.entry? place = some .directory) :
    writeText files directory name text =
      ⟨made, [], .error (.file .isDirectory (directory.child name))⟩ := by
  have hwrite : made.write (directory.child name) (Text.utf8 text.toList) =
      .error .isDirectory := by
    rw [FileTree.write, htarget]
    dsimp only
    rw [hplace]
  rw [writeText, hmade]
  dsimp only
  rw [hwrite]

end Obstructed

/-- Files with a directory where the page of the working directory should be. -/
def obstructedHome : FileTree := ⟨["home"], [(["home", "index.html"], .directory)]⟩

end ServiceDoc.Output
