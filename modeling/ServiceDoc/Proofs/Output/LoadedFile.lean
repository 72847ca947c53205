import ServiceDoc.Proofs.Output.Title
import ServiceDoc.Proofs.Script.Element
/-!
# The file that a page loads

A page names its file in a string literal of its script, and escapes it as it does the title. But a
script is raw: the entities are not decoded in it, and a backslash is an escape of the literal. So
the file that is loaded is the one the page was written for only if its name has no character that
is escaped, or means something in a literal, or is not read in a script. For any other name the
literal has another value, or there is none (`loadedFile?_writePage`).

A literal that has the name as its value ends at the quote of the page, since a longer one has one
comma more than the name. No entity is in it, since this brings a semicolon more. And it has no
backslash, since its value would be shorter.
-/

namespace ServiceDoc

namespace Page

open Script (exists_of_readString readString scriptChars utf16)
open Text (avoids avoids_append avoids_of_notMem cut? cut?_append_of_avoids cut?_append_of_eq_some)

/-- The value of a string literal that a comma follows; its opening quote has been read. -/
def entryValue? (s : List Char) : Option (List Nat) :=
  (readString s).bind fun p => if p.2.head? = some ',' then some p.1 else none

/-- The file that the script of a page loads, as units of UTF-16: the entry for it is a string
literal. -/
def loadedFile? (page : List Char) : Option (List Nat) :=
  ((Script.ofPage? page).bind (cut? "url: \x22".toList)).bind fun p => entryValue? p.2

/-- The characters behind which a literal goes astray: two that mean something in it, and two that
are not read in a script as they are. -/
def astray : List Char := ['\\', '\n', '\r', '\x00']

/-! ## The script of the page -/

/-- The script up to the name of the file. -/
def scriptHead : String :=
  lines
    ["",
     "    window.onload = function () \x7b",
     "      window.ui = SwaggerUIBundle(\x7b"]
    ++ "        url: \x22"

/-- The script behind the name of the file. -/
def scriptTail : String :=
  lines
    ["\x22,",
     "        dom_id: \x22#swagger-ui\x22,",
     "      \x7d);",
     "    \x7d;"]
    ++ "  "

/-- The lines between the title and the script. -/
def headLines : List String :=
  ["</title>",
   "  <link rel=\"stylesheet\" href=\"https://unpkg.com/swagger-ui-dist@5/swagger-ui.css\">",
   "</head>",
   "<body>",
   "  <div id=\"swagger-ui\"></div>",
   "  <script src=\"https://unpkg.com/swagger-ui-dist@5/swagger-ui-bundle.js\"></script>"]

theorem lines_cons (l : String) (ls : List String) : lines (l :: ls) = l ++ "\n" ++ lines ls := by
  simp [lines]

theorem beforeFile_eq : beforeFile = lines headLines ++ ("  " ++ ("<script>" ++ scriptHead)) := by
  simp only [beforeFile, scriptHead, headLines, lines_cons, String.append_assoc,
    String.empty_append]
  rfl

theorem afterFile_eq :
    afterFile = scriptTail ++ ("</script>" ++ lines ["", "</body>", "</html>"]) := by
  simp only [afterFile, scriptTail, lines_cons, String.append_assoc, String.empty_append]
  rfl

theorem avoids_lines {mark : List Char} {ls : List String}
    (h : ∀ l ∈ ls, avoids mark (l ++ "\n").toList) : avoids mark (lines ls).toList := by
  induction ls with
  | nil => rfl
  | cons l ls ih =>
      obtain ⟨hl, hls⟩ := List.forall_mem_cons.1 h
      rw [lines_cons, String.toList_append]
      exact avoids_append hl (ih hls)

theorem avoids_beforeTitle : avoids "<script>".toList beforeTitle.toList := by
  rw [beforeTitle, String.toList_append]
  exact avoids_append (avoids_lines (by decide +kernel)) (by decide +kernel)

theorem avoids_headLines : avoids "<script>".toList (lines headLines ++ "  ").toList := by
  rw [String.toList_append]
  exact avoids_append (avoids_lines (by decide +kernel)) (by decide +kernel)

theorem avoids_scriptHead : avoids "</script>".toList scriptHead.toList := by
  rw [scriptHead, String.toList_append]
  exact avoids_append (avoids_lines (by decide +kernel)) (by decide +kernel)

theorem avoids_scriptTail : avoids "</script>".toList scriptTail.toList := by
  rw [scriptTail, String.toList_append]
  exact avoids_append (avoids_lines (by decide +kernel)) (by decide +kernel)

theorem ofPage?_render (title file : String) :
    Script.ofPage? (render title file).toList =
      some (scriptHead.toList ++ scriptChars ((escape file).toList ++ scriptTail.toList)) := by
  have hopen : cut? "<script>".toList "<script>".toList = some ([], []) := by decide +kernel
  have hclose : cut? "</script>".toList "</script>".toList = some ([], []) := by decide +kernel
  have htitle : avoids "<script>".toList (escape title).toList :=
    avoids_of_notMem (notMem_escape (by decide) title)
  have hfile : avoids "</script>".toList (escape file).toList :=
    avoids_of_notMem (notMem_escape (by decide) file)
  have hplain : ∀ c ∈ scriptHead.toList, c ∉ ['\r', '\x00'] := by
    intro c hc
    have hall : (scriptHead.toList.all fun c => c ∉ ['\r', '\x00']) = true := by decide +kernel
    exact of_decide_eq_true (List.all_eq_true.1 hall c hc)
  have hpage : (render title file).toList =
      beforeTitle.toList ++ ((escape title).toList ++ ((lines headLines ++ "  ").toList ++
        ("<script>".toList ++ (scriptHead.toList ++ ((escape file).toList ++
          (scriptTail.toList ++ ("</script>".toList ++
            (lines ["", "</body>", "</html>"]).toList))))))) := by
    simp only [toList_render, beforeFile_eq, afterFile_eq, String.toList_append, List.append_assoc]
  rw [Script.ofPage?, hpage, cut?_append_of_avoids avoids_beforeTitle,
    cut?_append_of_avoids htitle, cut?_append_of_avoids avoids_headLines,
    cut?_append_of_eq_some hopen]
  simp only [Option.map_some, Option.bind_some, List.nil_append]
  rw [cut?_append_of_avoids avoids_scriptHead, cut?_append_of_avoids hfile,
    cut?_append_of_avoids avoids_scriptTail, cut?_append_of_eq_some hclose]
  simp only [Option.map_some, List.append_nil]
  rw [Script.scriptChars_append_of_forall hplain]

theorem loadedFile?_render (title file : String) :
    ∃ r, loadedFile? (render title file).toList =
      entryValue? (scriptChars (escape file).toList ++ '\x22' :: ',' :: r) := by
  obtain ⟨a, hhead⟩ : ∃ a, cut? "url: \x22".toList scriptHead.toList = some (a, []) := by
    rw [scriptHead, String.toList_append, toList_lines]
    exact ⟨_, rfl⟩
  obtain ⟨r, htail⟩ : ∃ r, scriptTail.toList = '\x22' :: ',' :: '\n' :: r := by
    rw [scriptTail, String.toList_append, toList_lines]
    exact ⟨_, rfl⟩
  refine ⟨scriptChars ('\n' :: r), ?_⟩
  rw [loadedFile?, ofPage?_render, Option.bind_some, cut?_append_of_eq_some hhead,
    Option.bind_some, List.nil_append, htail, Script.scriptChars_append_cons (by decide),
    Script.scriptChars_cons (by decide), Script.scriptChars_cons (by decide)]
  rfl

/-! ## The value of the entry -/

theorem entryValue?_append {s : List Char} (h : Script.IsPlain s) (r : List Char) :
    entryValue? (s ++ '\x22' :: ',' :: r) = some (utf16 s) := by
  rw [entryValue?, Script.readString_append h]
  rfl

/-- The characters that entities are made of. -/
def entityChars : List Char := ['&', 'a', 'm', 'p', 'l', 't', 'g', '#', '3', '4', '9', ';']

theorem mem_entityChars {c d : Char} (hd : d ∈ '&' :: markup) (hc : c ∈ escapeChar d) :
    c ∈ entityChars := by
  have hsubset : escapeChar d ⊆ entityChars := by
    fin_cases hd <;> decide
  exact hsubset hc

theorem count_escape {c : Char} (h : c ∉ entityChars ++ markup) (s : String) :
    (escape s).toList.count c = s.toList.count c := by
  rw [List.mem_append, not_or] at h
  rw [toList_escape]
  induction s.toList with
  | nil => rfl
  | cons d s ih =>
      rw [List.flatMap_cons, List.count_append, ih, List.count_cons, Nat.add_comm]
      by_cases hd : d ∈ '&' :: markup
      · have hnone : c ∉ escapeChar d := fun hc => h.1 (mem_entityChars hd hc)
        have hne : d ≠ c := by
          rintro rfl
          rcases List.mem_cons.1 hd with rfl | hd
          · exact h.1 (by decide)
          · exact h.2 hd
        rw [List.count_eq_zero.2 hnone, if_neg (by simpa using hne)]
      · rw [escapeChar_of_notMem hd, List.count_singleton]

/-- Each character that is escaped brings a semicolon. -/
theorem count_escape_semicolon (s : String) :
    (escape s).toList.count ';' =
      s.toList.count ';' + s.toList.countP (fun c => c ∈ '&' :: markup) := by
  rw [toList_escape]
  induction s.toList with
  | nil => rfl
  | cons d s ih =>
      rw [List.flatMap_cons, List.count_append, ih, List.count_cons, List.countP_cons]
      by_cases hd : d ∈ '&' :: markup
      · have hone : (escapeChar d).count ';' = 1 ∧ (d == ';') = false := by
          fin_cases hd <;> decide
        simp only [hone, hd, decide_true, Bool.false_eq_true, if_false, if_true]
        omega
      · simp only [escapeChar_of_notMem hd, List.count_singleton, hd, decide_false,
          Bool.false_eq_true, if_false]
        omega

theorem toList_escape_of_forall {s : String} (h : ∀ c ∈ s.toList, c ∉ '&' :: markup) :
    (escape s).toList = s.toList := by
  rw [toList_escape]
  generalize s.toList = cs at h ⊢
  induction cs with
  | nil => rfl
  | cons c cs ih =>
      obtain ⟨hc, hcs⟩ := List.forall_mem_cons.1 h
      rw [List.flatMap_cons, escapeChar_of_notMem hc, ih hcs, List.singleton_append]

theorem mem_escape_of_mem_astray {c : Char} (h : c ∈ astray) (s : String) :
    c ∈ (escape s).toList ↔ c ∈ s.toList := by
  have hother : c ∉ entityChars ++ markup := by
    fin_cases h <;> decide
  rw [← List.count_pos_iff, count_escape hother, List.count_pos_iff]

/-- A name with nothing that means something in a literal is loaded in its escaped form. -/
theorem entryValue?_escape {file : String} (h : ∀ c ∈ file.toList, c ∉ astray) (r : List Char) :
    entryValue? (scriptChars (escape file).toList ++ '\x22' :: ',' :: r) =
      some (utf16 (escape file).toList) := by
  have hnone {c : Char} (hc : c ∈ astray) : c ∉ (escape file).toList := fun hmem =>
    h c ((mem_escape_of_mem_astray hc file).1 hmem) hc
  have hread : scriptChars (escape file).toList = (escape file).toList := by
    have hself := Script.scriptChars_append_of_forall (s := (escape file).toList) ?_ []
    · rwa [List.append_nil, scriptChars, List.append_nil] at hself
    · rintro c hc hmem
      exact hnone (by fin_cases hmem <;> decide) hc
  have hplain : Script.IsPlain (escape file).toList := by
    rintro c hc hmem
    rcases List.mem_cons.1 hmem with rfl | hmem
    · exact notMem_escape (by decide) file hc
    · exact hnone (by fin_cases hmem <;> decide) hc
  rw [hread, entryValue?_append hplain]

/-- A text without quotes is all that stands before a quote, if this text has no more commas and a
comma follows the first quote. -/
theorem eq_of_append_quote {s body r r' : List Char} (hquote : '\x22' ∉ s)
    (hcomma : body.count ',' ≤ s.count ',')
    (heq : s ++ '\x22' :: ',' :: r = body ++ '\x22' :: r') : body = s := by
  rcases List.append_eq_append_iff.1 heq with ⟨t, hbody, ht⟩ | ⟨t, hs, ht⟩
  · match t with
    | [] => rw [hbody, List.append_nil]
    | [_] => simp at ht
    | q :: d :: t =>
        simp only [List.cons_append, List.cons.injEq] at ht
        obtain ⟨-, rfl, -⟩ := ht
        rw [hbody, List.count_append] at hcomma
        have hpos : 0 < (q :: ',' :: t).count ',' := List.count_pos_iff.2 (by simp)
        omega
  · cases t with
    | nil => rw [hs, List.append_nil]
    | cons d t =>
        simp only [List.cons_append, List.cons.injEq] at ht
        obtain ⟨rfl, -⟩ := ht
        exact absurd (by simp [hs]) hquote

/-- A name that is loaded as it is has none of the characters that are escaped or go astray. -/
theorem notMem_of_entryValue? {file : String} {r : List Char}
    (h : entryValue? (scriptChars (escape file).toList ++ '\x22' :: ',' :: r) =
      some (utf16 file.toList)) :
    ∀ c ∈ file.toList, c ∉ '&' :: markup ++ astray := by
  obtain ⟨⟨v, r'⟩, hread, hvalue⟩ := Option.bind_eq_some_iff.1 h
  obtain ⟨-, hvalue⟩ := Option.ite_none_right_eq_some.1 hvalue
  obtain rfl := Option.some.inj hvalue
  obtain ⟨body, heq, hcovers, hless, hself⟩ := exists_of_readString hread
  -- A longer literal would have one comma more than the name.
  obtain rfl : body = scriptChars (escape file).toList := by
    refine eq_of_append_quote ?_ ?_ heq
    · rw [Script.mem_scriptChars (by decide)]
      exact notMem_escape (by decide) file
    · have hle := hcovers.count_le ',' (by decide)
      rw [Script.count_utf16 (by decide)] at hle
      rwa [Script.count_scriptChars (by decide), count_escape (by decide)]
  -- An entity would bring one semicolon more.
  have hescaped : ∀ c ∈ file.toList, c ∉ '&' :: markup := by
    have hle := hcovers.count_le ';' (by decide)
    rw [Script.count_utf16 (by decide), Script.count_scriptChars (by decide),
      count_escape_semicolon] at hle
    have hnone : file.toList.countP (fun c => c ∈ '&' :: markup) = 0 := by omega
    simpa using List.countP_eq_zero.1 hnone
  rw [toList_escape_of_forall hescaped] at hless hself
  -- A backslash would make the value shorter.
  have hbackslash : '\\' ∉ scriptChars file.toList := fun hmem =>
    absurd (Script.length_utf16_scriptChars_le file.toList) (Nat.not_le.2 (hless hmem))
  obtain ⟨hsame, hends, -⟩ := hself hbackslash
  obtain ⟨hfeed, hreturn⟩ := Script.notMem_of_notMem_scriptChars hends
  rw [Script.mem_scriptChars (by decide)] at hbackslash
  have hnul : '\x00' ∉ file.toList := by
    rw [← List.count_eq_zero, ← Script.count_utf16 (by decide), hsame,
      Script.count_utf16 (by decide), List.count_eq_zero]
    exact Script.nul_notMem_scriptChars file.toList
  intro c hc hmem
  rcases List.mem_append.1 hmem with hmem | hmem
  · exact hescaped c hc hmem
  · have hnone : ∀ d ∈ astray, d ∉ file.toList := by
      simp only [astray, List.forall_mem_cons]
      exact ⟨hbackslash, hfeed, hreturn, hnul, by simp⟩
    exact hnone c hmem hc

theorem loadedFile?_render_eq_some_iff (title file : String) :
    loadedFile? (render title file).toList = some (utf16 file.toList) ↔
      ∀ c ∈ file.toList, c ∉ '&' :: markup ++ astray := by
  obtain ⟨r, hloaded⟩ := loadedFile?_render title file
  rw [hloaded]
  constructor
  · exact notMem_of_entryValue?
  · intro h
    rw [entryValue?_escape (fun c hc hmem => h c hc (List.mem_append_right _ hmem)),
      toList_escape_of_forall fun c hc hmem => h c hc (List.mem_append_left _ hmem)]

end Page

namespace Output

open Script (utf16)

/-- The script of a page that was written loads the escaped form of the file name, if this has none
of the characters that go astray. So it loads the file that the page was written for exactly if the
name has neither these nor any that are escaped. -/
theorem loadedFile?_writePage {files : FileTree} {document : Json} {directory path : Path}
    {file : String} (h : (writePage files document directory (.str file)).outcome = .ok path) :
    ∃ bytes, (writePage files document directory (.str file)).files.read path = .ok bytes ∧
      ((∀ c ∈ file.toList, c ∉ Page.astray) →
        Page.loadedFile? (Text.replaceInvalid bytes) = some (utf16 (Page.escape file).toList)) ∧
      (Page.loadedFile? (Text.replaceInvalid bytes) = some (utf16 file.toList) ↔
        ∀ c ∈ file.toList, c ∉ ['&', '<', '>', '\x27', '\x22', '\\', '\n', '\r', '\x00']) := by
  obtain ⟨title, -, hread⟩ := exists_title_of_writePage h
  refine ⟨_, hread, ?_, ?_⟩
  · intro hplain
    obtain ⟨r, hloaded⟩ := Page.loadedFile?_render title file
    rw [Text.replaceInvalid_utf8, hloaded, Page.entryValue?_escape hplain]
  · rw [Text.replaceInvalid_utf8]
    exact Page.loadedFile?_render_eq_some_iff title file

theorem outcome_writePage_newDirectory (file : String) :
    (writePage ⟨["w"], []⟩ (.obj []) ⟨"", ["out"]⟩ (.str file)).outcome =
      .ok ⟨"", ["out", "index.html"]⟩ := by
  have htitle : Page.title (.obj []) = .ok "API" := rfl
  rw [writePage_of_ok htitle]
  exact outcome_writeText_newDirectory _

theorem loadedFile?_writePage_documentName :
    (writePage ⟨["w"], []⟩ (.obj []) ⟨"", ["out"]⟩ (.str "swagger.json")).outcome =
        .ok ⟨"", ["out", "index.html"]⟩ ∧
      ∃ bytes, (writePage ⟨["w"], []⟩ (.obj []) ⟨"", ["out"]⟩ (.str "swagger.json")).files.read
            ⟨"", ["out", "index.html"]⟩ = .ok bytes ∧
        Page.loadedFile? (Text.replaceInvalid bytes) = some (utf16 "swagger.json".toList) := by
  have houtcome := outcome_writePage_newDirectory "swagger.json"
  obtain ⟨bytes, hread, -, hiff⟩ := loadedFile?_writePage houtcome
  exact ⟨houtcome, bytes, hread, hiff.2 (by simp)⟩

/-- The page that is written for a name with an ampersand loads another file. -/
theorem loadedFile?_writePage_ampersand :
    (writePage ⟨["w"], []⟩ (.obj []) ⟨"", ["out"]⟩ (.str "a&b.json")).outcome =
        .ok ⟨"", ["out", "index.html"]⟩ ∧
      ∃ bytes, (writePage ⟨["w"], []⟩ (.obj []) ⟨"", ["out"]⟩ (.str "a&b.json")).files.read
            ⟨"", ["out", "index.html"]⟩ = .ok bytes ∧
        Page.loadedFile? (Text.replaceInvalid bytes) = some (utf16 "a&amp;b.json".toList) ∧
        utf16 "a&amp;b.json".toList ≠ utf16 "a&b.json".toList := by
  have houtcome := outcome_writePage_newDirectory "a&b.json"
  obtain ⟨title, -, hread⟩ := exists_title_of_writePage houtcome
  obtain ⟨r, hloaded⟩ := Page.loadedFile?_render title "a&b.json"
  have hescape : (Page.escape "a&b.json").toList = "a&amp;b.json".toList := by
    rw [Page.toList_escape]
    rfl
  refine ⟨houtcome, _, hread, ?_, by decide +kernel⟩
  rw [Text.replaceInvalid_utf8, hloaded, Page.entryValue?_escape (by simp [Page.astray]), hescape]

end Output

end ServiceDoc
