import Mathlib
import ServiceDoc.Output
import ServiceDoc.Proofs.FileTree.Write
import ServiceDoc.Proofs.Json.Ascii
import ServiceDoc.Proofs.Text.Utf8
/-!
# The document file

A document that was written is found in its file: the bytes there are read as the same document, so
no two documents have the same file. The way from the value to the bytes and back is put together
from three parts that know nothing of each other: the text of a value, ASCII, and the files.
-/

namespace ServiceDoc

/-- Reads bytes as JSON. -/
def Json.ofBytes? (bytes : List UInt8) : Option Json := read? (Text.replaceInvalid bytes)

theorem Json.ofBytes?_utf8_documentText (v : Json) :
    ofBytes? (Text.utf8 v.documentText.toList) = some v := by
  rw [ofBytes?, Text.replaceInvalid_utf8, read?_documentText]

/-- The bytes of a document end with one line end. -/
theorem Json.exists_utf8_documentText_eq (v : Json) :
    ∃ body last, Text.utf8 v.documentText.toList = body ++ [last, 10] ∧ last ≠ 10 := by
  have hascii := isAscii_documentText v
  obtain ⟨body, c, htext, hne⟩ := exists_documentText_eq v
  rw [htext] at hascii ⊢
  have hc : c.toNat < 0x80 := hascii c (by simp)
  refine ⟨body.map fun d => UInt8.ofNat d.toNat, UInt8.ofNat c.toNat, ?_, ?_⟩
  · rw [Text.utf8_of_isAscii hascii, List.map_append]
    rfl
  · intro heq
    have hnat : c.toNat = 10 := by
      rw [← Text.toNat_ofNat_toNat hc, heq]
      rfl
    exact hne (Char.toNat_inj.1 hnat)

namespace Output

/-- A text that was written stands in its file. -/
theorem read_of_writeText {files : FileTree} {directory path : Path} {name text : String}
    (h : (writeText files directory name text).outcome = .ok path) :
    path = directory.child name ∧
      (writeText files directory name text).files.read path = .ok (Text.utf8 text.toList) := by
  rw [writeText] at h ⊢
  split at h
  · cases h
  · next made _ =>
    simp only at h
    split at h
    · cases h
    · next written hwritten =>
      obtain rfl := Except.ok.inj h
      simp only [hwritten]
      exact ⟨trivial, FileTree.read_of_write hwritten⟩

theorem writePage_of_ok {files : FileTree} {document : Json} {directory : Path}
    {title file : String} (h : Page.title document = .ok title) :
    writePage files document directory (.str file) =
      writeText files directory pageName (Page.render title file) := by
  rw [writePage, h]
  rfl

/-- A page that was written stands in its file, with the title of its document. -/
theorem exists_title_of_writePage {files : FileTree} {document : Json} {directory path : Path}
    {file : String} (h : (writePage files document directory (.str file)).outcome = .ok path) :
    ∃ title, Page.title document = .ok title ∧
      (writePage files document directory (.str file)).files.read path =
        .ok (Text.utf8 (Page.render title file).toList) := by
  cases htitle : Page.title document with
  | error kind =>
      rw [writePage, htitle] at h
      cases h
  | ok title =>
      rw [writePage_of_ok htitle] at h ⊢
      exact ⟨title, rfl, (read_of_writeText h).2⟩

/-- A document that was written is read back from its file, which is ASCII with a single line end at
its end. Any other document that has the same file is the same. -/
theorem ofBytes?_writeDocument {files : FileTree} {document : Json} {directory path : Path}
    (h : (writeDocument files document directory).outcome = .ok path) :
    path = directory.child "swagger.json" ∧
      ∃ bytes, (writeDocument files document directory).files.read path = .ok bytes ∧
        Json.ofBytes? bytes = some document ∧ (∀ b ∈ bytes, b < 0x80) ∧
        (∃ body last, bytes = body ++ [last, 10] ∧ last ≠ 10) ∧
        ∀ (files' : FileTree) (document' : Json) (directory' path' : Path),
          (writeDocument files' document' directory').outcome = .ok path' →
          (writeDocument files' document' directory').files.read path' = .ok bytes →
          document' = document := by
  obtain ⟨hpath, hread⟩ := read_of_writeText h
  refine ⟨hpath, _, hread, Json.ofBytes?_utf8_documentText document, ?_,
    Json.exists_utf8_documentText_eq document, ?_⟩
  · intro b hb
    exact Text.lt_of_mem_utf8 (Json.isAscii_documentText document) hb
  · intro files' document' directory' path' h' hsame
    have hbytes := (read_of_writeText h').2
    rw [← writeDocument, hsame] at hbytes
    have hread' := Json.ofBytes?_utf8_documentText document'
    rw [← Except.ok.inj hbytes, Json.ofBytes?_utf8_documentText] at hread'
    exact (Option.some.inj hread').symm

/-- A document with empty collections, a negative number, and names and texts that need escapes. -/
def mixedDocument : Json :=
  .obj [("\x22\\\n\x7f", .arr [.null, .arr [], .obj [], .int (-120)]), ("", .str "é😀\x08")]

theorem ofBytes?_writeDocument_mixedDocument :
    (writeDocument ⟨["w"], []⟩ mixedDocument ⟨"", ["out"]⟩).outcome =
        .ok ⟨"", ["out", "swagger.json"]⟩ ∧
      ∃ bytes,
        (writeDocument ⟨["w"], []⟩ mixedDocument ⟨"", ["out"]⟩).files.read
            ⟨"", ["out", "swagger.json"]⟩ = .ok bytes ∧
          Json.ofBytes? bytes = some mixedDocument := by
  have hmade : FileTree.ensureDirectories ⟨["w"], []⟩ ⟨"", ["out"]⟩ =
      (⟨["w"], [(["w", "out"], .directory)]⟩, .ok ()) := by
    cbv
  have hwritten (content : List UInt8) :
      FileTree.write ⟨["w"], [(["w", "out"], .directory)]⟩ ⟨"", ["out", "swagger.json"]⟩ content =
        .ok ⟨["w"], [(["w", "out"], .directory), (["w", "out", "swagger.json"], .file content)]⟩ := by
    cbv
  have houtcome : (writeDocument ⟨["w"], []⟩ mixedDocument ⟨"", ["out"]⟩).outcome =
      .ok ⟨"", ["out", "swagger.json"]⟩ := by
    rw [writeDocument, writeText, hmade]
    simp only [Path.child, documentName, List.singleton_append, hwritten]
  obtain ⟨-, bytes, hread, hdocument, -⟩ := ofBytes?_writeDocument houtcome
  exact ⟨houtcome, bytes, hread, hdocument⟩

end Output

end ServiceDoc
