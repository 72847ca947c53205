import Mathlib
import ServiceDoc.Proofs.FileTree.Frame
import ServiceDoc.Proofs.Output.Document
/-!
# What publishing leaves

A document that was published stands in its directory, with its page if that was wanted, and
everything else is as it was, but for directories that are new on the way there (`IsPublished`). The
document is written before its page, so it is the frame of the second write that keeps the first.
-/

namespace ServiceDoc.Output

open FileTree (Filled Fate)

/-- Files before and after a document was published in a directory, which is at a place then. -/
structure IsPublished (before after : FileTree) (directory : Path) (place : Place)
    (document : Json) (withPage : Bool) : Prop where
  target_document : after.target (directory.child "swagger.json") =
    .ok (.name (place ++ ["swagger.json"]))
  target_page : after.target (directory.child "index.html") =
    .ok (.name (place ++ ["index.html"]))
  document_read : ∃ bytes, after.entry? (place ++ ["swagger.json"]) = some (.file bytes) ∧
    Json.ofBytes? bytes = some document
  page_read : withPage = true → ∃ title, Page.title document = .ok title ∧
    after.entry? (place ++ ["index.html"]) =
      some (.file (Text.utf8 (Page.render title "swagger.json").toList))
  /-- A page that was not wanted is not touched; only where the path of the directory passes through
  its place and leaves it again, a directory may be new there. -/
  page_kept : withPage = false →
    after.entry? (place ++ ["index.html"]) = before.entry? (place ++ ["index.html"]) ∨
      ".." ∈ directory.segments ∧ before.entry? (place ++ ["index.html"]) = none ∧
        after.entry? (place ++ ["index.html"]) = some .directory ∧
        ∃ a : Path, a.IsOnWayTo directory ∧
          after.target a = .ok (.name (place ++ ["index.html"]))
  /-- What is not written is kept, or it is a new directory on the way. -/
  others_kept : ∀ q, q ≠ place ++ ["swagger.json"] →
    (withPage = true → q ≠ place ++ ["index.html"]) →
    after.entry? q = before.entry? q ∨
      before.entry? q = none ∧ after.entry? q = some .directory ∧
        ∃ a : Path, a.IsOnWayTo directory ∧ after.target a = .ok (.name q)
  directories_stay : ∀ q, before.entry? q = some .directory → after.entry? q = some .directory
  files_stay : ∀ q bytes, before.entry? q = some (.file bytes) →
    ∃ bytes', after.entry? q = some (.file bytes')

/-! ## Writing one file -/

/-- The record of a file that was written. -/
def writtenRecord (path : Path) : LogRecord :=
  ⟨.debug, "odata_swagger.codegen", "Wrote " ++ path.toText⟩

section WriteText

variable (files : FileTree) (directory : Path) (name text : String)

/-- Writing a text fills its directory, also where it fails. -/
theorem filled_writeText :
    Filled directory [name] files (writeText files directory name text).files := by
  have hmade := (Filled.ensureDirectories files directory).of_subset (List.nil_subset [name])
  rw [writeText]
  cases hways : files.ensureDirectories directory with
  | mk made outcome =>
      rw [hways] at hmade
      cases outcome with
      | error e => exact hmade
      | ok _ =>
          dsimp only
          cases hwrite : made.write (directory.child name) (Text.utf8 text.toList) with
          | error f => exact hmade
          | ok written =>
              obtain ⟨place, htarget, hplace, rfl⟩ := FileTree.eq_set_of_write hwrite
              exact hmade.file _ (List.mem_singleton_self name) htarget hplace

variable {files directory name text}

/-- A text is written where its directory has been made, unless a directory stands there. -/
theorem writeText_of_target {made : FileTree} {place : Place} (text : String)
    (hmade : files.ensureDirectories directory = (made, .ok ()))
    (htarget : made.target (directory.child name) = .ok (.name place))
    (hplace : made.entry? place ≠ some .directory) :
    writeText files directory name text =
      ⟨made.set place (.file (Text.utf8 text.toList)), [writtenRecord (directory.child name)],
        .ok (directory.child name)⟩ := by
  have hwrite : made.write (directory.child name) (Text.utf8 text.toList) =
      .ok (made.set place (.file (Text.utf8 text.toList))) := by
    rw [FileTree.write, htarget]
    dsimp only
    split
    · next hdirectory => exact absurd hdirectory hplace
    · rfl
  rw [writeText, hmade]
  dsimp only
  rw [hwrite]
  rfl

/-- A text that was written is at the place that its path leads to. -/
theorem exists_entry?_writeText {path : Path}
    (h : (writeText files directory name text).outcome = .ok path) :
    path = directory.child name ∧
      (writeText files directory name text).log = [writtenRecord (directory.child name)] ∧
      ∃ above, (writeText files directory name text).files.target (directory.child name) =
        .ok (.name (above ++ [name])) ∧
      FileTree.entry? (writeText files directory name text).files (above ++ [name]) =
        some (.file (Text.utf8 text.toList)) := by
  rw [writeText] at h ⊢
  cases hways : files.ensureDirectories directory with
  | mk made outcome =>
      rw [hways] at h
      cases outcome with
      | error e => cases h
      | ok _ =>
          dsimp only at h ⊢
          cases hwrite : made.write (directory.child name) (Text.utf8 text.toList) with
          | error f =>
              rw [hwrite] at h
              cases h
          | ok written =>
              rw [hwrite] at h
              obtain ⟨place, htarget, hplace, rfl⟩ := FileTree.eq_set_of_write hwrite
              obtain ⟨-, -, -, -, above, -, rfl⟩ := FileTree.target_child_eq_name_iff.1 htarget
              exact ⟨(Except.ok.inj h).symm, rfl, above, FileTree.target_set hplace htarget,
                FileTree.entry?_set_self hplace⟩

end WriteText

/-! ## Writing both -/

section Generate

variable {files : FileTree} {document : Json} {directory path : Path}

theorem generate_of_error {e : OutputError} (withPage : Bool)
    (h : (writeDocument files document directory).outcome = .error e) :
    generate files document directory withPage =
      ⟨(writeDocument files document directory).files,
        (writeDocument files document directory).log, .error e⟩ := by
  rw [generate, h]

theorem generate_of_ok_false
    (h : (writeDocument files document directory).outcome = .ok path) :
    generate files document directory false =
      ⟨(writeDocument files document directory).files,
        (writeDocument files document directory).log, .ok [path]⟩ := by
  rw [generate, h]
  rfl

theorem generate_of_ok_true
    (h : (writeDocument files document directory).outcome = .ok path) :
    generate files document directory true =
      let page := writePage (writeDocument files document directory).files document directory
        (.str documentName)
      ⟨page.files, (writeDocument files document directory).log ++ page.log,
        page.outcome.map fun p => [path, p]⟩ := by
  rw [generate, h]
  rfl

/-- The names of the files that are wanted. -/
def writtenNames (withPage : Bool) : List String :=
  if withPage then [documentName, pageName] else [documentName]

theorem documentName_mem_writtenNames (withPage : Bool) :
    [documentName] ⊆ writtenNames withPage := by
  cases withPage <;> simp [writtenNames]

theorem filled_writePage (files : FileTree) (document : Json) (directory : Path) :
    Filled directory [pageName] files
      (writePage files document directory (.str documentName)).files := by
  rw [writePage]
  cases Page.title document with
  | error kind => exact .refl files
  | ok title => exact filled_writeText files directory pageName _

/-- Publishing fills the directory with the files that are wanted, also where it fails. -/
theorem filled_generate (files : FileTree) (document : Json) (directory : Path)
    (withPage : Bool) :
    Filled directory (writtenNames withPage) files
      (generate files document directory withPage).files := by
  have hdocument : Filled directory (writtenNames withPage) files
      (writeDocument files document directory).files :=
    (filled_writeText files directory documentName _).of_subset
      (documentName_mem_writtenNames withPage)
  cases houtcome : (writeDocument files document directory).outcome with
  | error e =>
      rw [generate_of_error withPage houtcome]
      exact hdocument
  | ok path =>
      cases withPage with
      | false =>
          rw [generate_of_ok_false houtcome]
          exact hdocument
      | true =>
          rw [generate_of_ok_true houtcome]
          exact hdocument.trans ((filled_writePage _ document directory).of_subset
            (by simp [writtenNames]))

/-- A document that was written is still there when its page is written. -/
theorem entry?_documentName_writeText {text : String} {place : Place} {content : List UInt8}
    (htarget : files.target (directory.child documentName) = .ok (.name place))
    (h : files.entry? place = some (.file content)) :
    FileTree.entry? (writeText files directory pageName text).files place =
      some (.file content) := by
  have hfilled := filled_writeText files directory pageName text
  cases hfilled.fate place with
  | kept hkept => rw [hkept, h]
  | directory _ hbefore =>
      rw [h] at hbefore
      cases hbefore
  | file name _ _ _ hname hplace =>
      rw [List.mem_singleton] at hname
      subst hname
      obtain ⟨above, hpage, hdocument⟩ :=
        FileTree.exists_above_of_target_child hplace (hfilled.target htarget)
      rw [hpage] at hdocument
      exact absurd (List.append_inj_right' hdocument rfl) (by decide)

/-- What a successful publication has written, and where. -/
theorem exists_written_of_generate {withPage : Bool} {paths : List Path}
    (h : (generate files document directory withPage).outcome = .ok paths) :
    paths = (writtenNames withPage).map directory.child ∧
      (generate files document directory withPage).log = paths.map writtenRecord ∧ ∃ place,
      (generate files document directory withPage).files.target (directory.child documentName) =
        .ok (.name (place ++ [documentName])) ∧
      FileTree.entry? (generate files document directory withPage).files (place ++ [documentName]) =
        some (.file (Text.utf8 document.documentText.toList)) ∧
      (withPage = true → ∃ title, Page.title document = .ok title ∧
        FileTree.entry? (generate files document directory withPage).files (place ++ [pageName]) =
          some (.file (Text.utf8 (Page.render title documentName).toList))) := by
  cases houtcome : (writeDocument files document directory).outcome with
  | error e =>
      rw [generate_of_error withPage houtcome] at h
      cases h
  | ok path =>
      obtain ⟨rfl, hlog, place, htarget, hentry⟩ := exists_entry?_writeText houtcome
      cases withPage with
      | false =>
          rw [generate_of_ok_false houtcome] at h ⊢
          obtain rfl := Except.ok.inj h
          exact ⟨rfl, hlog, place, htarget, hentry, nofun⟩
      | true =>
          rw [generate_of_ok_true houtcome] at h ⊢
          cases htitle : Page.title document with
          | error kind =>
              rw [writePage, htitle] at h
              cases h
          | ok title =>
              rw [writePage_of_ok htitle] at h ⊢
              dsimp only at h ⊢
              cases hpage : (writeText (writeDocument files document directory).files directory
                  pageName (Page.render title documentName)).outcome with
              | error e =>
                  rw [hpage] at h
                  cases h
              | ok page =>
                  rw [hpage] at h
                  obtain rfl := Except.ok.inj h
                  obtain ⟨rfl, hlogPage, above, habove, hcontent⟩ := exists_entry?_writeText hpage
                  have hkept := (filled_writeText (writeDocument files document directory).files
                    directory pageName (Page.render title documentName)).target htarget
                  obtain ⟨common, heq, heq'⟩ :=
                    FileTree.exists_above_of_target_child habove hkept
                  obtain rfl := List.append_inj_left' heq rfl
                  obtain rfl := List.append_inj_left' heq' rfl
                  rw [show (writeDocument files document directory).log = _ from hlog, hlogPage]
                  exact ⟨rfl, rfl, place, hkept, entry?_documentName_writeText htarget hentry,
                    fun _ => ⟨title, rfl, hcontent⟩⟩

/-- The places that are written to are those of the two files. -/
theorem eq_of_mem_writtenNames {after : FileTree} {withPage : Bool} {place q : Place}
    {name : String} (hname : name ∈ writtenNames withPage)
    (hdocument : after.target (directory.child documentName) =
      .ok (.name (place ++ [documentName])))
    (hpage : after.target (directory.child pageName) = .ok (.name (place ++ [pageName])))
    (hq : after.target (directory.child name) = .ok (.name q)) :
    q = place ++ [documentName] ∨ withPage = true ∧ q = place ++ [pageName] := by
  cases withPage with
  | false =>
      rw [writtenNames, if_neg Bool.false_ne_true, List.mem_singleton] at hname
      rw [hname, hdocument] at hq
      cases hq
      exact .inl rfl
  | true =>
      rw [writtenNames, if_pos rfl, List.mem_cons, List.mem_singleton] at hname
      rcases hname with rfl | rfl
      · rw [hdocument] at hq
        cases hq
        exact .inl rfl
      · rw [hpage] at hq
        cases hq
        exact .inr ⟨rfl, rfl⟩

/-- A publication that succeeds is one. -/
theorem isPublished_generate {withPage : Bool} {paths : List Path}
    (h : (generate files document directory withPage).outcome = .ok paths) :
    paths.head? = some (directory.child "swagger.json") ∧ ∃ place,
      IsPublished files (generate files document directory withPage).files directory place document
        withPage := by
  obtain ⟨hpaths, -, place, htarget, hentry, hpage⟩ := exists_written_of_generate h
  have hhead : paths.head? = some (directory.child documentName) := by
    rw [hpaths]
    cases withPage <;> rfl
  have hfilled := filled_generate files document directory withPage
  have hpageTarget : (generate files document directory withPage).files.target
      (directory.child pageName) = .ok (.name (place ++ [pageName])) :=
    FileTree.target_child_of_le htarget (by decide) (by decide) (by decide)
  have hothers : ∀ q, q ≠ place ++ [documentName] →
      (withPage = true → q ≠ place ++ [pageName]) →
      FileTree.entry? (generate files document directory withPage).files q = files.entry? q ∨
        files.entry? q = none ∧
          FileTree.entry? (generate files document directory withPage).files q = some .directory ∧
          ∃ a : Path, a.IsOnWayTo directory ∧
            (generate files document directory withPage).files.target a = .ok (.name q) := by
    intro q hne hnePage
    cases hfilled.fate q with
    | kept hkept => exact .inl hkept
    | directory a hbefore hafter ha hq => exact .inr ⟨hbefore, hafter, a, ha, hq⟩
    | file name _ _ _ hname hq =>
        rcases eq_of_mem_writtenNames hname htarget hpageTarget hq with heq | ⟨hwith, heq⟩
        · exact absurd heq hne
        · exact absurd heq (hnePage hwith)
  refine ⟨hhead, place, ?_⟩
  constructor
  · exact htarget
  · exact hpageTarget
  · exact ⟨_, hentry, Json.ofBytes?_utf8_documentText document⟩
  · exact hpage
  · intro hwithout
    have hne : place ++ [pageName] ≠ place ++ [documentName] := by
      intro heq
      exact absurd (List.append_inj_right' heq rfl) (by decide)
    rcases hothers (place ++ [pageName]) hne (by rw [hwithout]; exact nofun) with
      hsame | ⟨hnone, hdirectory, a, ha, hq⟩
    · exact .inl hsame
    · refine .inr ⟨?_, hnone, hdirectory, a, ha, hq⟩
      by_contra hup
      exact FileTree.target_ne_of_isOnWayTo hup ha hpageTarget hq
  · exact hothers
  · intro q
    exact hfilled.entry?_directory
  · intro q bytes
    exact hfilled.exists_entry?_file

end Generate

end ServiceDoc.Output
