import Mathlib
import ServiceDoc.Proofs.CommandLine.Course
import ServiceDoc.Proofs.Output.Publication
import ServiceDoc.Proofs.Swagger.References
/-!
# What a summary says

The line that ends a successful run names the document that was written and the numbers of its paths
and definitions. It can be read in one way only (`generatedText_inj`), and no other course of a run
prints such a line, so the line alone tells what the run has done (`isPublished_of_generatedText`).
-/

namespace ServiceDoc.CommandLine

open Csdl (EntitySet Reading)

/-! ## The line -/

theorem isDigit_of_mem_toString {n : Nat} {c : Char} (hc : c ∈ (toString n).toList) :
    c.isDigit = true := by
  rw [Nat.toString_eq_ofList_toDigits, String.toList_ofList] at hc
  exact Nat.isDigit_of_mem_toDigits (by decide) (by decide) hc

/-- A text before digits is not longer than it must be, because the character that ends it would
stand among the digits. -/
theorem eq_nil_of_append_digits {xs zs ds es : List Char} {c : Char} (hc : c.isDigit = false)
    (hds : ∀ d ∈ ds, d.isDigit = true) (h : xs ++ c :: ds = (xs ++ zs) ++ c :: es) : zs = [] := by
  cases zs with
  | nil => rfl
  | cons z zs =>
      rw [List.append_assoc, List.append_cancel_left_eq, List.cons_append] at h
      have hmem : c ∈ ds := by
        rw [(List.cons.inj h).2]
        simp
      rw [hds c hmem] at hc
      cases hc

/-- Digits at the end of a text are told apart from what stands before them by the character that is
none. -/
theorem append_digits_inj {xs ys ds es : List Char} {c : Char} (hc : c.isDigit = false)
    (hds : ∀ d ∈ ds, d.isDigit = true) (hes : ∀ d ∈ es, d.isDigit = true)
    (h : xs ++ c :: ds = ys ++ c :: es) : xs = ys ∧ ds = es := by
  rcases List.append_eq_append_iff.1 h with ⟨zs, rfl, -⟩ | ⟨zs, rfl, -⟩
  · obtain rfl := eq_nil_of_append_digits hc hds h
    simpa using h
  · obtain rfl := eq_nil_of_append_digits hc hes h.symm
    simpa using h

/-- The line tells its path and its numbers. -/
theorem generatedText_inj {path path' : String} {n n' m m' : Nat}
    (h : generatedText path n m = generatedText path' n' m') : path = path' ∧ n = n' ∧ m = m' := by
  have hlist := congrArg String.toList h
  simp only [generatedText, String.toList_append] at hlist
  have hends : (path.toList ++ " (".toList ++ (toString n).toList ++ " paths,".toList) ++
        ' ' :: (toString m).toList =
      (path'.toList ++ " (".toList ++ (toString n').toList ++ " paths,".toList) ++
        ' ' :: (toString m').toList := by
    have hleft := List.append_cancel_right hlist
    simp only [List.append_assoc] at hleft ⊢
    exact List.append_cancel_left hleft
  obtain ⟨hpaths, hm⟩ := append_digits_inj (by decide) (fun _ => isDigit_of_mem_toString)
    (fun _ => isDigit_of_mem_toString) hends
  have hmiddle : (path.toList ++ [' ']) ++ '(' :: (toString n).toList =
      (path'.toList ++ [' ']) ++ '(' :: (toString n').toList := by
    have hright := List.append_cancel_right hpaths
    simp only [List.append_assoc] at hright ⊢
    exact hright
  obtain ⟨hpath, hn⟩ := append_digits_inj (by decide) (fun _ => isDigit_of_mem_toString)
    (fun _ => isDigit_of_mem_toString) hmiddle
  exact ⟨String.toList_inj.1 (List.append_cancel_right hpath),
    Nat.repr_inj.1 (String.toList_inj.1 hn), Nat.repr_inj.1 (String.toList_inj.1 hm)⟩

/-! ## The run -/

section Stages

variable {arguments : List String} {environment : Environment} {files : FileTree}
  {network : Http.Network} {settings : Settings}

/-- A run that prints something else than the help has understood its arguments. -/
theorem exists_runSettings_of_run
    (hne : (run arguments environment files network).standardOutput ≠ "")
    (hhelp : (run arguments environment files network).standardOutput ≠ help) :
    ∃ settings, readSettings arguments environment = .ok settings ∧
      run arguments environment files network = runSettings files network settings := by
  unfold run at hne hhelp ⊢
  cases hsettings : readSettings arguments environment with
  | error refusal =>
      rw [hsettings] at hne hhelp
      cases refusal with
      | help => exact absurd rfl hhelp
      | usage e => exact absurd rfl hne
  | ok settings => exact ⟨settings, rfl, rfl⟩

theorem runSettings_of_ok {bytes : List UInt8} {reading : Reading}
    (hload : (Source.load files network true (settings.source.getD "")).outcome = .ok bytes)
    (hreading : Reading.ofBytes bytes = .ok reading) :
    runSettings files network settings =
      let l := Source.load files network true (settings.source.getD "")
      publish files settings l.sent l.log reading := by
  rw [runSettings]
  dsimp only
  rw [hload]
  dsimp only
  rw [hreading]

/-- What prints after that has loaded and read its metadata. -/
theorem exists_reading_of_runSettings
    (hne : (runSettings files network settings).standardOutput ≠ "") :
    ∃ bytes reading,
      (Source.load files network true (settings.source.getD "")).outcome = .ok bytes ∧
      Reading.ofBytes bytes = .ok reading := by
  unfold runSettings at hne
  dsimp only at hne
  cases hload : (Source.load files network true (settings.source.getD "")).outcome with
  | error e =>
      rw [hload] at hne
      exact absurd (standardOutput_failed files _ _ (.load e)) hne
  | ok bytes =>
      rw [hload] at hne
      dsimp only at hne
      cases hreading : Reading.ofBytes bytes with
      | error e =>
          rw [hreading] at hne
          exact absurd (standardOutput_failed files _ _ (.read e)) hne
      | ok reading => exact ⟨bytes, reading, rfl, hreading⟩

/-- What prints after that has written its document. -/
theorem exists_generate_of_publish {sent : List Http.Request} {log : List LogRecord}
    {reading : Reading} (hne : (publish files settings sent log reading).standardOutput ≠ "") :
    ∃ paths,
      let document := Swagger.Document.ofSets reading.sets ⟨settings.host, settings.basePath⟩
      let w := Output.generate files document.toJson (.ofText settings.output) settings.withPage
      w.outcome = .ok paths ∧ (publish files settings sent log reading).files = w.files ∧
      (publish files settings sent log reading).standardOutput =
        summary (paths.headD (.ofText settings.output)) document ∧
      (publish files settings sent log reading).ending = .exit 0 := by
  unfold publish at hne ⊢
  dsimp only at hne ⊢
  cases hwritten : (Output.generate files
      (Swagger.Document.ofSets reading.sets ⟨settings.host, settings.basePath⟩).toJson
      (.ofText settings.output) settings.withPage).outcome with
  | error e =>
      rw [hwritten] at hne
      exact absurd (standardOutput_failed _ sent _ (.write e)) hne
  | ok paths => exact ⟨paths, rfl, rfl, rfl, rfl⟩

end Stages

/-- A run that says what it generated has done so: what it loaded is read, and the document of its
entity sets is published, with as many paths and definitions as the line says. -/
theorem isPublished_of_generatedText (arguments : List String) (environment : Environment)
    (files : FileTree) (network : Http.Network) (path : String) (n m : Nat)
    (h : (run arguments environment files network).standardOutput = "Generated " ++ path ++ " (" ++
      toString n ++ " paths, " ++ toString m ++ " definitions)\n") :
    ∃ settings bytes reading place,
      let document := (Swagger.Document.ofSets reading.sets
        ⟨settings.host, settings.basePath⟩).toJson
      readSettings arguments environment = .ok settings ∧
      (Source.load files network true (settings.source.getD "")).outcome = .ok bytes ∧
      Reading.ofBytes bytes = .ok reading ∧
      path = ((Path.ofText settings.output).child "swagger.json").toText ∧
      (∃ paths, document.at? ["paths"] = some (.obj paths) ∧ paths.length = n) ∧
      (∃ definitions, document.at? ["definitions"] = some (.obj definitions) ∧
        definitions.length = m) ∧
      (run arguments environment files network).ending = .exit 0 ∧
      Output.IsPublished files (run arguments environment files network).files
        (Path.ofText settings.output) place document settings.withPage := by
  change _ = generatedText path n m at h
  have hne : (run arguments environment files network).standardOutput ≠ "" := by
    rw [h]
    exact generatedText_ne_empty path n m
  have hhelp : (run arguments environment files network).standardOutput ≠ help := by
    rw [h]
    exact generatedText_ne_help path n m
  obtain ⟨settings, hsettings, hrun⟩ := exists_runSettings_of_run hne hhelp
  rw [hrun] at h hne ⊢
  obtain ⟨bytes, reading, hload, hreading⟩ := exists_reading_of_runSettings hne
  rw [runSettings_of_ok hload hreading] at h hne ⊢
  obtain ⟨paths, hwritten, hfiles, houtput, hending⟩ := exists_generate_of_publish hne
  obtain ⟨hfirst, place, hpublished⟩ := Output.isPublished_generate hwritten
  rw [houtput, List.headD_eq_head?_getD, hfirst, summary_eq_generatedText] at h
  obtain ⟨rfl, rfl, rfl⟩ := generatedText_inj h
  refine ⟨settings, bytes, reading, place, hsettings, hload, hreading, rfl, ?_, ?_, hending, ?_⟩
  · exact ⟨_, Swagger.at?_paths _ _, List.length_map _⟩
  · exact ⟨_, Swagger.at?_definitions _ _, List.length_map _⟩
  · rw [hfiles]
    exact hpublished

/-- A home directory that holds a document without any sets. -/
def plainHome : FileTree := metadataHome [60, 97, 47, 62]

/-- A run on that document publishes no sets. -/
theorem run_plainHome {arguments : List String} {output : String} {withPage : Bool}
    {paths : List Path}
    (hsettings :
      readSettings arguments {} = .ok ⟨some "m.xml", none, none, output, withPage, false⟩)
    (hpaths : (Output.generate plainHome (Swagger.Document.ofSets [] ⟨none, none⟩).toJson
      (.ofText output) withPage).outcome = .ok paths) :
    (run arguments {} plainHome []).files =
        (Output.generate plainHome (Swagger.Document.ofSets [] ⟨none, none⟩).toJson
          (.ofText output) withPage).files ∧
      (run arguments {} plainHome []).standardOutput =
        generatedText (paths.headD (.ofText output)).toText 0 1 := by
  have hload := outcome_load_metadataHome [60, 97, 47, 62]
  have hreading : Reading.ofBytes [60, 97, 47, 62] = .ok ⟨[], [.summary 0 0]⟩ := by
    cbv
  rw [run, hsettings]
  dsimp only
  rw [runSettings_of_ok hload hreading]
  dsimp only
  rw [publish]
  dsimp only
  rw [hpaths]
  exact ⟨rfl, rfl⟩

/-- The same home with a new directory in it. -/
def plainHomeWith (name : String) : FileTree := plainHome.set ["home", name] .directory

theorem isPublished_of_generatedText_plainHome :
    ∃ settings bytes reading place,
      (run ["m.xml"] {} plainHome []).standardOutput =
        "Generated generated/swagger.json (0 paths, 1 definitions)\n" ∧
      readSettings ["m.xml"] {} = .ok settings ∧
      (Source.load plainHome [] true (settings.source.getD "")).outcome = .ok bytes ∧
      Reading.ofBytes bytes = .ok reading ∧
      Output.IsPublished plainHome (run ["m.xml"] {} plainHome []).files
        (Path.ofText settings.output) place
        (Swagger.Document.ofSets reading.sets ⟨settings.host, settings.basePath⟩).toJson
        settings.withPage := by
  have hsettings := readSettings_metadataHome
  have hpath : Path.ofText "generated" = ⟨"", ["generated"]⟩ := by
    cbv
  have hpaths : (Output.generate plainHome (Swagger.Document.ofSets [] ⟨none, none⟩).toJson
      ⟨"", ["generated"]⟩ true).outcome =
        .ok [⟨"", ["generated", "swagger.json"]⟩, ⟨"", ["generated", "index.html"]⟩] := by
    have hmade : plainHome.ensureDirectories ⟨"", ["generated"]⟩ =
        (plainHomeWith "generated", .ok ()) := by
      cbv
    have hagain : ∀ content, ((plainHomeWith "generated").set
          ["home", "generated", "swagger.json"] (.file content)).ensureDirectories
            ⟨"", ["generated"]⟩ =
        ((plainHomeWith "generated").set ["home", "generated", "swagger.json"] (.file content),
          .ok ()) := by
      intro content
      cbv
    have htarget : (plainHomeWith "generated").target
        (Path.child ⟨"", ["generated"]⟩ Output.documentName) =
          .ok (.name ["home", "generated", "swagger.json"]) := by
      cbv
    have hdocument := Output.writeText_of_target
      (Swagger.Document.ofSets [] ⟨none, none⟩).toJson.documentText hmade htarget (by cbv; simp)
    have htitle : Page.title (Swagger.Document.ofSets [] ⟨none, none⟩).toJson =
        .ok "OData Service" := by
      cbv
    rw [Output.generate_of_ok_true (congrArg Output.Written.outcome hdocument)]
    dsimp only
    rw [Output.writePage_of_ok htitle, Output.writeDocument, hdocument]
    dsimp only
    generalize
      Text.utf8 (Swagger.Document.ofSets [] ⟨none, none⟩).toJson.documentText.toList = content
    have htargetPage : ((plainHomeWith "generated").set ["home", "generated", "swagger.json"]
        (.file content)).target (Path.child ⟨"", ["generated"]⟩ Output.pageName) =
          .ok (.name ["home", "generated", "index.html"]) := by
      cbv
    rw [Output.writeText_of_target _ (hagain content) htargetPage (by cbv; simp)]
    rfl
  rw [← hpath] at hpaths
  have houtput : (run ["m.xml"] {} plainHome []).standardOutput =
      "Generated generated/swagger.json (0 paths, 1 definitions)\n" := by
    rw [(run_plainHome hsettings hpaths).2]
    cbv
  obtain ⟨settings, bytes, reading, place, hsettings', hbytes, hreading, -, -, -, -, hpublished⟩ :=
    isPublished_of_generatedText ["m.xml"] {} plainHome [] "generated/swagger.json" 0 1
      (by rw [houtput]; cbv)
  exact ⟨settings, bytes, reading, place, houtput, hsettings', hbytes, hreading, hpublished⟩

/-- A run whose output path passes through the place of the page and leaves it again. -/
def passingArguments : List String := ["m.xml", "-o", "index.html/..", "--no-ui"]

theorem readSettings_passingArguments :
    readSettings passingArguments {} =
      .ok ⟨some "m.xml", none, none, "index.html/..", false, false⟩ := by
  cbv

theorem run_passingArguments :
    (run passingArguments {} plainHome []).standardOutput =
        "Generated index.html/../swagger.json (0 paths, 1 definitions)\n" ∧
      ∃ content, (run passingArguments {} plainHome []).files =
        (plainHomeWith "index.html").set ["home", "swagger.json"] (.file content) := by
  have hmade : plainHome.ensureDirectories (Path.ofText "index.html/..") =
      (plainHomeWith "index.html", .ok ()) := by
    cbv
  have htarget : (plainHomeWith "index.html").target
      ((Path.ofText "index.html/..").child Output.documentName) =
        .ok (.name ["home", "swagger.json"]) := by
    cbv
  have hdocument := Output.writeText_of_target
    (Swagger.Document.ofSets [] ⟨none, none⟩).toJson.documentText hmade htarget (by cbv; simp)
  have hgenerate := Output.generate_of_ok_false (congrArg Output.Written.outcome hdocument)
  obtain ⟨hfiles, houtput⟩ :=
    run_plainHome readSettings_passingArguments (congrArg Output.Written.outcome hgenerate)
  rw [hgenerate, Output.writeDocument, hdocument] at hfiles
  refine ⟨?_, _, hfiles⟩
  rw [houtput]
  cbv

/-- A path that passes through the place of the page and leaves it again makes a directory there,
though no page is wanted. -/
theorem generatedText_passingPage :
    (run ["m.xml", "-o", "index.html/..", "--no-ui"] {} plainHome []).standardOutput =
        "Generated index.html/../swagger.json (0 paths, 1 definitions)\n" ∧
      plainHome.entry? ["home", "index.html"] = none ∧
      FileTree.target (run ["m.xml", "-o", "index.html/..", "--no-ui"] {} plainHome []).files
        ((Path.ofText "index.html/..").child "index.html") = .ok (.name ["home", "index.html"]) ∧
      FileTree.entry? (run ["m.xml", "-o", "index.html/..", "--no-ui"] {} plainHome []).files
        ["home", "index.html"] = some .directory := by
  rw [← passingArguments]
  obtain ⟨houtput, content, hfiles⟩ := run_passingArguments
  rw [houtput, hfiles]
  exact ⟨rfl, by cbv, by cbv, by cbv⟩

end ServiceDoc.CommandLine
