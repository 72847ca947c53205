import ServiceDoc.Proofs.CommandLine.Publication
import ServiceDoc.Proofs.Output.Repetition
/-!
# Running again

A run that has published its document can be run again, with the same arguments, environment and
replies, on the files that it has left. It takes the same course then and leaves them as they are
(`run_run`), unless it reads its metadata from one of the files that it writes.
-/

namespace ServiceDoc.CommandLine

open Csdl (Reading)
open Output (documentName pageName writtenNames)

/-- Whether the metadata comes from a service, or from a file that is neither the document nor the
page in the output directory, as far as these lead anywhere. -/
def Settings.ReadsElsewhere (s : Settings) (files : FileTree) : Prop :=
  Source.isAddress (s.source.getD "") ∨ ∀ name ∈ [documentName, pageName],
    files.target ((Path.ofText s.output).child name) ≠ files.target (.ofText (s.source.getD ""))

variable {files after : FileTree} {network : Http.Network} {settings : Settings}

/-- What was loaded is loaded again when other files have been written. -/
theorem load_of_filled {names : List String} {bytes : List UInt8}
    (hfilled : FileTree.Filled (.ofText settings.output) names files after)
    (hnames : names ⊆ [documentName, pageName]) (helsewhere : settings.ReadsElsewhere after)
    (h : (Source.load files network true (settings.source.getD "")).outcome = .ok bytes) :
    Source.load after network true (settings.source.getD "") =
      Source.load files network true (settings.source.getD "") := by
  rw [Source.load] at h
  rw [Source.load, Source.load]
  by_cases haddress : Source.isAddress (settings.source.getD "") = true
  · rw [if_pos haddress, if_pos haddress]
  · rw [if_neg haddress] at h
    rw [if_neg haddress, if_neg haddress, Source.loadFile, Source.loadFile]
    cases hread : files.read (.ofText (settings.source.getD "")) with
    | error f =>
        rw [Source.loadFile, hread] at h
        cases h
    | ok content =>
        have hne := helsewhere.resolve_left haddress
        rw [hfilled.read hread fun name hname => hne name (hnames hname)]

theorem writtenNames_subset (withPage : Bool) :
    writtenNames withPage ⊆ [documentName, pageName] := by
  cases withPage <;> simp [writtenNames]

/-- A run that says what it generated, repeated on the files that it has left, is the same run: it
makes the same requests, prints the same, and leaves these files as they are. All that is asked for
is that it does not read what it writes. -/
theorem run_run (arguments : List String) (environment : Environment) (files : FileTree)
    (network : Http.Network) (path : String) (n m : Nat)
    (h : (run arguments environment files network).standardOutput = "Generated " ++ path ++ " (" ++
      toString n ++ " paths, " ++ toString m ++ " definitions)\n")
    (helsewhere : ∀ settings, readSettings arguments environment = .ok settings →
      settings.ReadsElsewhere (run arguments environment files network).files) :
    run arguments environment (run arguments environment files network).files network =
      run arguments environment files network := by
  change _ = generatedText path n m at h
  have hne : (run arguments environment files network).standardOutput ≠ "" := by
    rw [h]
    exact generatedText_ne_empty path n m
  have hhelp : (run arguments environment files network).standardOutput ≠ help := by
    rw [h]
    exact generatedText_ne_help path n m
  obtain ⟨settings, hsettings, hrun⟩ := exists_runSettings_of_run hne hhelp
  have helsewhere := helsewhere settings hsettings
  rw [hrun] at hne helsewhere
  rw [hrun, run, hsettings]
  dsimp only
  obtain ⟨bytes, reading, hload, hreading⟩ := exists_reading_of_runSettings hne
  rw [runSettings_of_ok hload hreading] at hne helsewhere ⊢
  dsimp only at hne helsewhere ⊢
  obtain ⟨paths, hwritten, hfiles, -, -⟩ := exists_generate_of_publish hne
  rw [hfiles] at helsewhere ⊢
  have hfilled := Output.filled_generate files
    (Swagger.Document.ofSets reading.sets ⟨settings.host, settings.basePath⟩).toJson
    (.ofText settings.output) settings.withPage
  have hloaded := load_of_filled hfilled (writtenNames_subset settings.withPage) helsewhere hload
  have houtcome := (congrArg Source.Loading.outcome hloaded).trans hload
  rw [runSettings_of_ok houtcome hreading, hloaded]
  dsimp only
  rw [publish, Output.generate_generate hwritten]
  rfl

/-- The second time, the directory that the output path passes through is there already. -/
theorem run_run_passingArguments :
    (∀ settings, readSettings passingArguments {} = .ok settings →
        settings.ReadsElsewhere (run passingArguments {} plainHome []).files) ∧
      run passingArguments {} (run passingArguments {} plainHome []).files [] =
        run passingArguments {} plainHome [] ∧
      (run passingArguments {} plainHome []).standardOutput =
        "Generated index.html/../swagger.json (0 paths, 1 definitions)\n" := by
  obtain ⟨houtput, content, hfiles⟩ := run_passingArguments
  have helsewhere : ∀ settings, readSettings passingArguments {} = .ok settings →
      settings.ReadsElsewhere (run passingArguments {} plainHome []).files := by
    intro settings hsettings
    rw [readSettings_passingArguments] at hsettings
    obtain rfl := Except.ok.inj hsettings
    refine .inr ?_
    rw [hfiles]
    have hsource : ((plainHomeWith "index.html").set ["home", "swagger.json"]
        (.file content)).target (Path.ofText "m.xml") = .ok (.name ["home", "m.xml"]) := by
      cbv
    have hdocument : ((plainHomeWith "index.html").set ["home", "swagger.json"]
        (.file content)).target ((Path.ofText "index.html/..").child documentName) =
          .ok (.name ["home", "swagger.json"]) := by
      cbv
    have hpage : ((plainHomeWith "index.html").set ["home", "swagger.json"]
        (.file content)).target ((Path.ofText "index.html/..").child pageName) =
          .ok (.name ["home", "index.html"]) := by
      cbv
    simp [hsource, hdocument, hpage]
  exact ⟨helsewhere, run_run _ _ _ _ "index.html/../swagger.json" 0 1 (by rw [houtput]; cbv)
    helsewhere, houtput⟩

end ServiceDoc.CommandLine
