import ServiceDoc.Proofs.Output.Document
import ServiceDoc.Proofs.Text.Cut
/-!
# The title of a page

A page shows the title of its document, whatever characters are in it. Neither the title nor the name
of the file brings any markup into the page: both are escaped, so the characters that markup is made
of are those of the page itself, and the first end tag behind the title is its own. What stands
there is the title, once its entities are decoded (`shownTitle?_writePage`).
-/

namespace ServiceDoc

namespace Page

open Text (avoids avoids_of_notMem cut? cut?_append_of_avoids cut?_append_of_eq_some)

/-- The characters that begin, end and quote tags and attributes. -/
def markup : List Char := ['<', '>', '\x27', '\x22']

/-- A text with the entities of the five escaped characters decoded. -/
def decodeEntities : List Char → List Char
  | '&' :: 'a' :: 'm' :: 'p' :: ';' :: s => '&' :: decodeEntities s
  | '&' :: 'l' :: 't' :: ';' :: s => '<' :: decodeEntities s
  | '&' :: 'g' :: 't' :: ';' :: s => '>' :: decodeEntities s
  | '&' :: '#' :: '3' :: '9' :: ';' :: s => '\x27' :: decodeEntities s
  | '&' :: '#' :: '3' :: '4' :: ';' :: s => '\x22' :: decodeEntities s
  | c :: s => c :: decodeEntities s
  | [] => []

/-- The title that a page shows: what stands between its first title tag and the next end tag of a
title. -/
def shownTitle? (page : List Char) : Option String :=
  ((cut? "<title>".toList page).bind fun p => cut? "</title>".toList p.2).map fun p =>
    String.ofList (decodeEntities p.1)

/-! ## Escaped texts -/

theorem toList_escape (s : String) : (escape s).toList = s.toList.flatMap escapeChar := by
  rw [escape, String.toList_ofList]

theorem escapeChar_of_notMem {c : Char} (h : c ∉ '&' :: markup) : escapeChar c = [c] := by
  simp only [markup, List.mem_cons, List.not_mem_nil, or_false, not_or] at h
  obtain ⟨h1, h2, h3, h4, h5⟩ := h
  rw [escapeChar, if_neg h1, if_neg h2, if_neg h3, if_neg h4, if_neg h5]

theorem decodeEntities_cons {c : Char} (h : c ≠ '&') (s : List Char) :
    decodeEntities (c :: s) = c :: decodeEntities s := by
  rw [decodeEntities.eq_def]
  split <;> simp_all

theorem decodeEntities_escapeChar_append (c : Char) (s : List Char) :
    decodeEntities (escapeChar c ++ s) = c :: decodeEntities s := by
  by_cases h : c ∈ '&' :: markup
  · fin_cases h <;> rfl
  · have hne : c ≠ '&' := fun heq => h (by simp [heq])
    rw [escapeChar_of_notMem h, List.singleton_append, decodeEntities_cons hne]

theorem decodeEntities_escape (s : String) : decodeEntities (escape s).toList = s.toList := by
  rw [toList_escape]
  induction s.toList with
  | nil => rfl
  | cons c s ih => rw [List.flatMap_cons, decodeEntities_escapeChar_append, ih]

/-- None of the characters of markup is left in an escaped text. -/
theorem notMem_escape {c : Char} (h : c ∈ markup) (s : String) :
    c ∉ (escape s).toList := by
  rw [toList_escape, List.mem_flatMap]
  rintro ⟨d, -, hd⟩
  by_cases hmem : d ∈ '&' :: markup
  · fin_cases hmem <;> fin_cases h <;> simp [escapeChar] at hd
  · rw [escapeChar_of_notMem hmem, List.mem_singleton] at hd
    exact hmem (hd ▸ List.mem_cons_of_mem '&' h)

/-! ## The page -/

theorem toList_lines (ls : List String) :
    (lines ls).toList = ls.flatMap fun l => l.toList ++ ['\n'] := by
  simp [lines, String.toList_join, List.flatMap_map]

theorem toList_render (title file : String) :
    (render title file).toList = beforeTitle.toList ++ ((escape title).toList ++
      (beforeFile.toList ++ ((escape file).toList ++ afterFile.toList))) := by
  simp only [render, String.toList_append, List.append_assoc]

theorem count_render {c : Char} (h : c ∈ markup) (title file : String) :
    (render title file).toList.count c = (render "" "").toList.count c := by
  have hnone (s : String) : (escape s).toList.count c = 0 :=
    List.count_eq_zero.2 (notMem_escape h s)
  simp only [toList_render, List.count_append, hnone]

theorem shownTitle?_render (title file : String) :
    shownTitle? (render title file).toList = some title := by
  obtain ⟨a, hopen⟩ : ∃ a, cut? "<title>".toList beforeTitle.toList = some (a, []) := by
    rw [beforeTitle, String.toList_append, toList_lines]
    exact ⟨_, rfl⟩
  obtain ⟨b, hclose⟩ : ∃ b, cut? "</title>".toList beforeFile.toList = some ([], b) := by
    rw [beforeFile, String.toList_append, toList_lines]
    exact ⟨_, rfl⟩
  have htitle : avoids "</title>".toList (escape title).toList :=
    avoids_of_notMem (notMem_escape (by decide) title)
  rw [shownTitle?, toList_render, cut?_append_of_eq_some hopen, Option.bind_some, List.nil_append,
    cut?_append_of_avoids htitle, cut?_append_of_eq_some hclose, Option.map_some, Option.map_some,
    List.append_nil, decodeEntities_escape, String.ofList_toList]

end Page

namespace Output

/-- Whether a document gives itself a title, which is a text. -/
def IsTitled (document : Json) (title : String) : Prop :=
  ∃ members info, document = .obj members ∧ members.lookup "info" = some (.obj info) ∧
    info.lookup "title" = some (.str title)

theorem IsTitled.title_eq {document : Json} {title : String} (h : IsTitled document title) :
    Page.title document = .ok title := by
  obtain ⟨members, info, rfl, hinfo, htitle⟩ := h
  simp only [Page.title, hinfo, Option.getD_some, htitle]
  rfl

/-- The page of a document with a title is composed whatever its title is and the file is called.
Where it is written, it has as much markup as a page without a title and a file name, and it shows
the title. So two documents with the same page have the same title. -/
theorem shownTitle?_writePage {document : Json} {title : String} (htitle : IsTitled document title)
    (files : FileTree) (directory : Path) (file : String) :
    writePage files document directory (.str file) =
        writeText files directory "index.html" (Page.render title file) ∧
      ∀ path, (writePage files document directory (.str file)).outcome = .ok path →
        ∃ bytes, (writePage files document directory (.str file)).files.read path = .ok bytes ∧
          (∀ c ∈ Page.markup, (Text.replaceInvalid bytes).count c =
            (Page.render "" "").toList.count c) ∧
          Page.shownTitle? (Text.replaceInvalid bytes) = some title ∧
          ∀ (files' : FileTree) (document' : Json) (title' : String) (directory' path' : Path)
            (file' : String), IsTitled document' title' →
            (writePage files' document' directory' (.str file')).outcome = .ok path' →
            (writePage files' document' directory' (.str file')).files.read path' = .ok bytes →
            title' = title := by
  have hread {document : Json} {title : String} (htitle : IsTitled document title)
      {files : FileTree} {directory path : Path} {file : String}
      (houtcome : (writePage files document directory (.str file)).outcome = .ok path) :
      (writePage files document directory (.str file)).files.read path =
        .ok (Text.utf8 (Page.render title file).toList) := by
    obtain ⟨title', htitle', hread⟩ := exists_title_of_writePage houtcome
    obtain rfl := Except.ok.inj (htitle.title_eq.symm.trans htitle')
    exact hread
  refine ⟨writePage_of_ok htitle.title_eq, fun path houtcome => ?_⟩
  refine ⟨_, hread htitle houtcome, ?_, ?_, ?_⟩
  · intro c hc
    rw [Text.replaceInvalid_utf8]
    exact Page.count_render hc title file
  · rw [Text.replaceInvalid_utf8, Page.shownTitle?_render]
  · intro files' document' title' directory' path' file' htitle' houtcome' hsame
    have hbytes := Except.ok.inj ((hread htitle' houtcome').symm.trans hsame)
    have hshown := Page.shownTitle?_render title' file'
    rw [← Text.replaceInvalid_utf8 (Page.render title' file').toList, hbytes,
      Text.replaceInvalid_utf8, Page.shownTitle?_render] at hshown
    exact (Option.some.inj hshown).symm

/-- A page can be written into a new directory. -/
theorem outcome_writeText_newDirectory (text : String) :
    (writeText ⟨["w"], []⟩ ⟨"", ["out"]⟩ pageName text).outcome =
      .ok ⟨"", ["out", "index.html"]⟩ := by
  have hmade : FileTree.ensureDirectories ⟨["w"], []⟩ ⟨"", ["out"]⟩ =
      (⟨["w"], [(["w", "out"], .directory)]⟩, .ok ()) := by
    cbv
  have hwritten (content : List UInt8) :
      FileTree.write ⟨["w"], [(["w", "out"], .directory)]⟩ ⟨"", ["out", "index.html"]⟩ content =
        .ok ⟨["w"], [(["w", "out"], .directory), (["w", "out", "index.html"], .file content)]⟩ := by
    cbv
  rw [writeText, hmade]
  simp only [Path.child, pageName, List.singleton_append, hwritten]

/-- A title with an end tag, an entity and both quotes. -/
def wickedTitle : String := "</title>&lt;\x22\x27"

def wickedDocument : Json := .obj [("info", .obj [("title", .str wickedTitle)])]

theorem shownTitle?_writePage_wickedTitle :
    IsTitled wickedDocument wickedTitle ∧
      ∃ bytes, (writePage ⟨["w"], []⟩ wickedDocument ⟨"", ["out"]⟩ (.str "\x22><b")).files.read
            ⟨"", ["out", "index.html"]⟩ = .ok bytes ∧
        (Text.replaceInvalid bytes).count '<' = (Page.render "" "").toList.count '<' ∧
        Page.shownTitle? (Text.replaceInvalid bytes) = some wickedTitle := by
  have htitle : IsTitled wickedDocument wickedTitle := ⟨_, _, rfl, rfl, rfl⟩
  obtain ⟨hpage, hwritten⟩ :=
    shownTitle?_writePage htitle ⟨["w"], []⟩ ⟨"", ["out"]⟩ "\x22><b"
  have houtcome : (writePage ⟨["w"], []⟩ wickedDocument ⟨"", ["out"]⟩ (.str "\x22><b")).outcome =
      .ok ⟨"", ["out", "index.html"]⟩ := by
    rw [hpage]
    exact outcome_writeText_newDirectory _
  obtain ⟨bytes, hread, hmarkup, hshown, -⟩ := hwritten _ houtcome
  exact ⟨htitle, bytes, hread, hmarkup '<' (by decide), hshown⟩

end Output

end ServiceDoc
