import ServiceDoc.Proofs.CommandLine.Publication
import ServiceDoc.Proofs.CommandLine.Unloadable
import ServiceDoc.Proofs.CommandLine.Unreadable
import ServiceDoc.Proofs.Uri.Metadata
import ServiceDoc.Proofs.Xml.OneLine
/-!
# Reported failures

A run that exits with status 1 writes the word `error` and then why its metadata could not be loaded
or read. What is wrong with bytes takes one line, and so does what is wrong with an address, since
all that it repeats of the address is quoted. A reply that is no success takes several, and so may a
source or a message of the network that is repeated as it is (`standardError_of_exit_one`,
`standardError_notFound`).
-/

namespace ServiceDoc

open Text (IsOneLine)

/-! ## Addresses -/

namespace Uri

theorem isOneLine_of_readHost {host : List Char} {e : UriError} (h : readHost host = .error e) :
    IsOneLine e.message := by
  unfold readHost at h
  repeat' split at h
  all_goals
    cases h
  all_goals
    dsimp only [UriError.message]
    simp only [Text.isOneLine_append, Text.isOneLine_quoted, and_true]
    decide

theorem isOneLine_of_readPort {scheme port : List Char} {e : UriError}
    (h : readPort scheme port = .error e) : IsOneLine e.message := by
  unfold readPort at h
  repeat' split at h
  all_goals
    cases h
  dsimp only [UriError.message]
  simp only [Text.isOneLine_append, Text.isOneLine_quoted, and_true]
  decide

theorem isOneLine_of_pathError? {hasScheme hasAuthority : Bool} {path : List Char} {e : UriError}
    (h : pathError? hasScheme hasAuthority path = some e) : IsOneLine e.message := by
  unfold pathError? at h
  repeat' split at h
  all_goals
    cases h
    try decide

theorem isOneLine_of_ofParts {p : Parts} {e : UriError} (h : ofParts p = .error e) :
    IsOneLine e.message := by
  unfold ofParts at h
  dsimp only at h
  split at h
  · next hhost =>
    cases h
    exact isOneLine_of_readHost hhost
  · split at h
    · next hport =>
      cases h
      exact isOneLine_of_readPort hport
    · split at h
      · next hpath =>
        cases h
        exact isOneLine_of_pathError? hpath
      · cases h

/-- What is wrong with a text that is no address is told on one line: parts of it are quoted. -/
theorem isOneLine_of_parse {text : String} {e : UriError} (h : parse text = .error e) :
    IsOneLine e.message := by
  unfold parse ofList at h
  split at h
  · cases h
    decide
  · split at h
    · cases h
      dsimp only [UriError.message]
      simp only [Text.isOneLine_append, Text.isOneLine_quoted, Text.isOneLine_toString, and_true]
      decide
    · exact isOneLine_of_ofParts h

end Uri

/-! ## Exchanges -/

namespace Http

theorem parse_of_redirectTarget_eq_badLocation {request : Uri} {location : String} {e : UriError}
    (h : redirectTarget request location = .error (.badLocation e)) :
    Uri.parse location = .error e := by
  cases hparse : Uri.parse location with
  | error x =>
      rw [redirectTarget_of_parse_eq_error hparse] at h
      cases h
      rfl
  | ok u =>
      obtain ⟨x, hx⟩ := redirectTarget_eq_error hparse h
      cases hx

theorem exists_parse_of_answer_eq_badLocation {follows : Bool} {request : Request}
    {response : Response} {e : UriError}
    (h : answer follows request response = .final (.error (.badLocation e))) :
    ∃ location, Uri.parse location = .error e := by
  unfold answer at h
  repeat' split at h
  all_goals
    cases h
  next location _ _ htarget => exact ⟨location, parse_of_redirectTarget_eq_badLocation htarget⟩

/-- A bad location was none when it was read. -/
theorem exists_parse_of_exchange_eq_badLocation {network : Network} {follows : Bool}
    {left count : Nat} {request : Request} {e : UriError}
    (h : (exchange network follows left count request).outcome = .error (.badLocation e)) :
    ∃ location, Uri.parse location = .error e := by
  fun_induction exchange network follows left count request with
  | case1 left count request response log outcome hanswer =>
      cases h
      exact exists_parse_of_answer_eq_badLocation hanswer
  | case2 => cases h
  | case3 count request response log r target hanswer left ih => exact ih h

theorem level_of_mem_responseLog {request : Request} {response : Response} {r : LogRecord}
    (h : r ∈ responseLog request response) : r.level = .info := by
  unfold responseLog at h
  repeat' split at h
  · cases h
  · cases h
  · rw [List.mem_singleton.1 h, replyRecord]

theorem level_of_mem_log_exchange {network : Network} {follows : Bool} {left count : Nat}
    {request : Request} {r : LogRecord}
    (h : r ∈ (exchange network follows left count request).log) : r.level = .info := by
  fun_induction exchange network follows left count request with
  | case1 | case2 => exact level_of_mem_responseLog h
  | case3 count request response log r' target hanswer left ih =>
      rcases List.mem_append.1 h with h | h
      · exact level_of_mem_responseLog h
      · exact ih h

end Http

/-! ## Sources -/

theorem FileFault.isOneLine_message (f : FileFault) (path : Path) : IsOneLine (f.message path) := by
  have hdescription : IsOneLine f.description := by
    cases f <;> decide
  rw [message]
  cases f.number? with
  | none => exact hdescription
  | some n =>
      simp only [Text.isOneLine_append, Text.isOneLine_toString, Text.isOneLine_quoted,
        hdescription, and_true]
      decide

namespace Source

theorem exists_parse_of_load_eq_badLocation {files : FileTree} {network : Http.Network}
    {follows : Bool} {source : String} {e : UriError}
    (h : (load files network follows source).outcome = .error (.exchange (.badLocation e))) :
    ∃ location, Uri.parse location = .error e := by
  rw [load] at h
  split at h
  · cases hfirst : firstAddress source with
    | error x =>
        rw [(loadService_of_firstAddress_eq_error network follows hfirst).2] at h
        cases h
    | ok u =>
        rw [(loadService_of_firstAddress network follows hfirst).2, body] at h
        split at h
        · next x hexchange =>
          cases h
          exact Http.exists_parse_of_exchange_eq_badLocation hexchange
        · split at h <;> cases h
  · rw [loadFile] at h
    cases hread : files.read (.ofText source) <;> rw [hread] at h <;> cases h

/-- Nothing is wrong with what is logged while a source is loaded. -/
theorem level_of_mem_log_load {files : FileTree} {network : Http.Network} {follows : Bool}
    {source : String} {r : LogRecord} (h : r ∈ (load files network follows source).log) :
    r.level ≠ .warning := by
  unfold load loadService loadFile at h
  repeat' split at h
  · cases h
  · rw [List.mem_singleton.1 h]
    exact nofun
  · rcases List.mem_cons.1 h with rfl | h
    · exact nofun
    · rw [Http.level_of_mem_log_exchange h]
      exact nofun
  · rw [List.mem_singleton.1 h]
    exact nofun

/-- Whether several lines tell why a source cannot be loaded: all that there is to say of a reply
that is no success takes some, and names and messages that come from outside are told as they are. -/
def LoadError.SpansLines : LoadError → Prop
  | .status _ _ => True
  | .file source _ _ => ¬ IsOneLine source
  | .exchange (.transport _ message) => ¬ IsOneLine message
  | _ => False

end Source

namespace Http.Reply

theorem not_isOneLine_failureMessage (r : Reply) (address : String) :
    ¬ IsOneLine (r.failureMessage address) := by
  rw [failureMessage]
  simp only [Text.isOneLine_append]
  rintro ⟨⟨⟨⟨-, hbreak⟩, -⟩, -⟩, -⟩
  exact absurd hbreak (by decide)

end Http.Reply

namespace CommandLine

open Csdl (Reading)
open Source (LoadError)

theorem isOneLine_message_iff_of_load {files : FileTree} {network : Http.Network} {follows : Bool}
    {source : String} {e : LoadError}
    (h : (Source.load files network follows source).outcome = .error e)
    (hreported : reportsLoad e = true) : IsOneLine e.message ↔ ¬ e.SpansLines := by
  cases e with
  | address x => cases hreported
  | status u r => exact iff_of_false (r.not_isOneLine_failureMessage u.toText) (not_not_intro trivial)
  | file source path f =>
      have hf : f ≠ .embeddedNul := of_decide_eq_true hreported
      rw [LoadError.message, if_neg hf, LoadError.SpansLines, not_not]
      have hfixed : IsOneLine "Cannot read metadata from " ∧ IsOneLine ": " := by decide
      simp only [Text.isOneLine_append, f.isOneLine_message, hfixed, true_and, and_true]
  | exchange x =>
      cases x with
      | transport kind message => exact not_not.symm
      | tooManyRedirects => exact iff_of_true (by decide) not_false
      | badLocation y =>
          obtain ⟨location, hparse⟩ := Source.exists_parse_of_load_eq_badLocation h
          refine iff_of_true ?_ not_false
          change IsOneLine ("Invalid URL in location header: " ++ y.message ++ ".")
          simp only [Text.isOneLine_append, Uri.isOneLine_of_parse hparse, and_true]
          decide
      | badAddress y => cases hreported
      | unknownScheme address => cases hreported

theorem isOneLine_errorMessage {bytes : List UInt8} {e : Xml.DocumentError}
    (h : Reading.ofBytes bytes = .error e) (hinvalid : Csdl.isInvalid e = true) :
    IsOneLine (Csdl.errorMessage e) := by
  have hbytes := (Csdl.ofBytes_eq_error_iff bytes e).1 h
  have hmessage : IsOneLine e.message := by
    refine Xml.isOneLine_message_of_ofBytes hbytes ?_
    rintro f rfl
    by_contra hf
    rw [(Csdl.isInvalid_eq_false_iff _).2
      ⟨f, rfl, fun reason heq => hf ⟨reason, heq⟩⟩] at hinvalid
    cases hinvalid
  rw [Csdl.errorMessage, if_pos hinvalid, Text.isOneLine_append]
  exact ⟨by decide, hmessage⟩

/-! ## Runs -/

theorem shownLog_eq_empty {log : List LogRecord} (h : ∀ r ∈ log, r.level ≠ .warning) :
    shownLog false log = "" := by
  have hnone : log.filter (·.isShown false) = [] := by
    rw [List.filter_eq_nil_iff]
    intro r hr
    simpa [LogRecord.isShown] using h r hr
  rw [shownLog, hnone]
  rfl

theorem standardError_failed {files : FileTree} {sent : List Http.Request} {log : String}
    {f : Failure} (h : f.isReported = true) :
    (failed files sent log f).standardError = log ++ "error: " ++ f.message ++ "\n" := by
  rw [failed, if_pos h]

theorem ending_publish_ne_exit_one (files : FileTree) (settings : Settings)
    (sent : List Http.Request) (log : List LogRecord) (reading : Reading) :
    (publish files settings sent log reading).ending ≠ .exit 1 := by
  unfold publish
  extract_lets document w shown
  cases w.outcome with
  | error e =>
      rw [ending_failed]
      exact nofun
  | ok paths => exact nofun

section Settings

variable {files : FileTree} {network : Http.Network} {settings : Settings}

theorem runSettings_of_load_eq_error {e : LoadError}
    (h : (Source.load files network true (settings.source.getD "")).outcome = .error e) :
    runSettings files network settings =
      let l := Source.load files network true (settings.source.getD "")
      failed files l.sent (shownLog settings.verbose l.log) (.load e) := by
  rw [runSettings, h]

theorem runSettings_of_ofBytes_eq_error {bytes : List UInt8} {e : Xml.DocumentError}
    (hload : (Source.load files network true (settings.source.getD "")).outcome = .ok bytes)
    (h : Reading.ofBytes bytes = .error e) :
    runSettings files network settings =
      let l := Source.load files network true (settings.source.getD "")
      failed files l.sent (shownLog settings.verbose l.log) (.read e) := by
  rw [runSettings, hload]
  dsimp only
  rw [h]

theorem isReported_of_failed_exit_one {sent : List Http.Request} {log : String} {f : Failure}
    (h : (failed files sent log f).ending = .exit 1) : f.isReported = true := by
  by_contra hnot
  rw [ending_failed, if_neg hnot] at h
  cases h

/-- A run that exits with status 1 has failed to load or to read its metadata. -/
theorem exists_failed_of_exit_one (h : (runSettings files network settings).ending = .exit 1) :
    let l := Source.load files network true (settings.source.getD "")
    ∃ f : Failure, f.isReported = true ∧
      runSettings files network settings =
        failed files l.sent (shownLog settings.verbose l.log) f ∧
      (IsOneLine f.message ↔ ¬ ∃ e, l.outcome = .error e ∧ e.SpansLines) := by
  intro l
  cases hload : l.outcome with
  | error e =>
      have hrun := runSettings_of_load_eq_error hload
      rw [hrun] at h
      have hreported := isReported_of_failed_exit_one h
      refine ⟨.load e, hreported, hrun, (isOneLine_message_iff_of_load hload hreported).trans ?_⟩
      simp
  | ok bytes =>
      cases hread : Reading.ofBytes bytes with
      | error e =>
          have hrun := runSettings_of_ofBytes_eq_error hload hread
          rw [hrun] at h
          have hreported := isReported_of_failed_exit_one h
          exact ⟨.read e, hreported, hrun,
            iff_of_true (isOneLine_errorMessage hread hreported) (by simp)⟩
      | ok reading =>
          -- What can be read is published, and that never ends with status 1.
          rw [runSettings_of_ok hload hread] at h
          exact absurd h (ending_publish_ne_exit_one files settings l.sent l.log reading)

end Settings

/-- **Reported failures.** A run that exits with status 1 tells why behind the word `error`, and
nothing else unless details are asked for. That takes one line, except where the source could not be
loaded for a reason that spans lines. -/
theorem standardError_of_exit_one {arguments : List String} {environment : Environment}
    {files : FileTree} {network : Http.Network}
    (hbrief : ∀ settings, readSettings arguments environment = .ok settings →
      settings.verbose = false)
    (h : (run arguments environment files network).ending = .exit 1) :
    ∃ settings, readSettings arguments environment = .ok settings ∧ ∃ f : Failure,
      f.isReported = true ∧
      (run arguments environment files network).standardError =
        "error: " ++ f.message ++ "\n" ∧
      (IsOneLine ("error: " ++ f.message) ↔
        ¬ ∃ e, (Source.load files network true (settings.source.getD "")).outcome = .error e ∧
          e.SpansLines) := by
  rw [run] at h ⊢
  cases hsettings : readSettings arguments environment with
  | error refusal =>
      rw [hsettings] at h
      cases refusal <;> cases h
  | ok settings =>
      rw [hsettings] at h
      obtain ⟨f, hreported, hrun, hline⟩ := exists_failed_of_exit_one h
      refine ⟨settings, rfl, f, hreported, ?_, ?_⟩
      · dsimp only
        rw [hrun, standardError_failed hreported, hbrief settings hsettings,
          shownLog_eq_empty fun r hr => Source.level_of_mem_log_load hr, String.empty_append]
      · rw [Text.isOneLine_append, hline]
        exact and_iff_right (by decide)

/-- A tag that ends too soon is told on one line. -/
theorem standardError_of_exit_one_unclosedTag :
    (∀ settings, readSettings ["m.xml"] {} = .ok settings → settings.verbose = false) ∧
      (run ["m.xml"] {} (metadataHome [60, 97]) []).ending = .exit 1 ∧
      ∃ f : Failure,
        (run ["m.xml"] {} (metadataHome [60, 97]) []).standardError =
          "error: " ++ f.message ++ "\n" ∧
        IsOneLine ("error: " ++ f.message) := by
  have hread : Reading.ofBytes [60, 97] = .error (.fault .unclosedToken ⟨1, 0⟩) := by
    cbv
  have hload := outcome_load_metadataHome [60, 97]
  have hbrief : ∀ settings, readSettings ["m.xml"] {} = .ok settings →
      settings.verbose = false := by
    intro settings hsettings
    rw [readSettings_metadataHome] at hsettings
    cases hsettings
    rfl
  have hending : (run ["m.xml"] {} (metadataHome [60, 97]) []).ending = .exit 1 :=
    (ending_run_of_ofBytes_eq_error readSettings_metadataHome hload hread).trans (if_pos rfl)
  obtain ⟨settings, hsettings, f, -, houtput, hline⟩ := standardError_of_exit_one hbrief hending
  refine ⟨hbrief, hending, f, houtput, hline.2 ?_⟩
  rw [readSettings_metadataHome] at hsettings
  cases hsettings
  rintro ⟨e, he, -⟩
  rw [Option.getD_some, hload] at he
  cases he

/-- A service without metadata. -/
def missingNetwork : Http.Network :=
  [.reply { status := 404 }]

/-- A reply that is no success is told on two lines. -/
theorem standardError_notFound :
    (∀ settings, readSettings ["http://svc/odata"] {} = .ok settings →
      settings.verbose = false) ∧
      (run ["http://svc/odata"] {} ⟨["home"], []⟩ missingNetwork).ending = .exit 1 ∧
      (run ["http://svc/odata"] {} ⟨["home"], []⟩ missingNetwork).standardError =
        "error: Client error '404 Not Found' for url 'http://svc/odata/$metadata'\n" ++
        "For more information check: " ++
        "https://developer.mozilla.org/en-US/docs/Web/HTTP/Status/404" ++ "\n" ∧
      ¬ ∃ line, IsOneLine line ∧
        (run ["http://svc/odata"] {} ⟨["home"], []⟩ missingNetwork).standardError =
          line ++ "\n" := by
  let service : Uri := ⟨"http", "", "svc", none, "/odata", none, none⟩
  let metadata : Uri := ⟨"http", "", "svc", none, "/odata/$metadata", none, none⟩
  have hsettings : readSettings ["http://svc/odata"] {} =
      .ok ⟨some "http://svc/odata", none, none, "generated", true, false⟩ :=
    readSettings_singleton (r := "ttp://svc/odata".toList) rfl (by decide)
  have hsource : Source.isAddress "http://svc/odata" = true := by cbv
  have hservice : Uri.parse "http://svc/odata" = .ok service := by cbv
  have hpath : Uri.trimSlashes service.decodedPath = "/odata".toList := by cbv
  have htext : metadata.toText = "http://svc/odata/$metadata" := by cbv
  have haddress : Uri.metadataText "http://svc/odata" = .ok "http://svc/odata/$metadata" := by
    rw [← htext]
    exact Uri.metadataText_of_withPath hservice hpath (by decide) (by cbv)
  have hparse : Uri.parse "http://svc/odata/$metadata" = .ok metadata := by cbv
  have hsend : Http.requestAddress metadata = .ok metadata := by cbv
  have hbody : Source.body (Http.exchange missingNetwork true Http.maxRedirects 0
      (Source.metadataRequest metadata)) = .error (.status metadata { status := 404 }) := by
    cbv
  have hload : (Source.load ⟨["home"], []⟩ missingNetwork true "http://svc/odata").outcome =
      .error (.status metadata { status := 404 }) := by
    rw [Source.load, if_pos hsource, Source.loadService, haddress]
    simp only [hparse, Except.bind, hsend, hbody]
  have houtput : (run ["http://svc/odata"] {} ⟨["home"], []⟩ missingNetwork).standardError =
      "error: " ++ Http.Reply.failureMessage { status := 404 } metadata.toText ++ "\n" := by
    rw [run, hsettings]
    dsimp only
    rw [runSettings_of_load_eq_error hload, standardError_failed rfl,
      shownLog_eq_empty fun r hr => Source.level_of_mem_log_load hr]
    rfl
  rw [houtput]
  refine ⟨?_, (ending_run_of_load_eq_error hsettings hload).trans (if_pos rfl), by cbv, ?_⟩
  · intro settings h
    rw [hsettings] at h
    cases h
    rfl
  · rintro ⟨line, hline, h⟩
    rw [← (String.append_left_inj "\n").1 h, Text.isOneLine_append] at hline
    exact Http.Reply.not_isOneLine_failureMessage _ _ hline.2

end CommandLine

end ServiceDoc
