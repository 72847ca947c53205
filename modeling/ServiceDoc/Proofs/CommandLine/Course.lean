import Mathlib
import ServiceDoc.CommandLine.Run
/-!
# The course of a run

A run takes one of six courses (`course_run`): it shows the help, refuses its arguments, fails to
load or to read the metadata, fails to write what it has read, or publishes it. Only the last two
work on the files. A run whose exit status, output or failure shows that it took another course has
therefore changed nothing (`files_run_of_unpublished`).
-/

namespace ServiceDoc.CommandLine

open Csdl (Reading)
open Output (OutputError)
open Source (LoadError)

/-- The courses that a run on some files can take. -/
inductive Course (files : FileTree) : Run → Prop where
  | helped : Course files { files := files, standardOutput := help }
  | refused (e : UsageError) :
    Course files ⟨files, [], "", usage ++ "odata_swagger: error: " ++ e.message ++ "\n", .exit 2⟩
  | notLoaded (sent : List Http.Request) (log : String) (e : LoadError) :
    Course files (failed files sent log (.load e))
  | notRead (sent : List Http.Request) (log : String) (e : Xml.DocumentError) :
    Course files (failed files sent log (.read e))
  /-- Some of the files may have been written before the failure. -/
  | notWritten (after : FileTree) (sent : List Http.Request) (log : String) (e : OutputError) :
    Course files (failed after sent log (.write e))
  | published (after : FileTree) (sent : List Http.Request) (log : String) (path : Path)
      (document : Swagger.Document) :
    Course files ⟨after, sent, summary path document, log, .exit 0⟩

theorem course_publish (files : FileTree) (settings : Settings) (sent : List Http.Request)
    (log : List LogRecord) (reading : Reading) :
    Course files (publish files settings sent log reading) := by
  unfold publish
  extract_lets document w shown
  cases w.outcome with
  | error e => exact .notWritten w.files sent shown e
  | ok paths => exact .published w.files sent shown _ document

theorem course_runSettings (files : FileTree) (network : Http.Network) (settings : Settings) :
    Course files (runSettings files network settings) := by
  unfold runSettings
  extract_lets l shown
  cases l.outcome with
  | error e => exact .notLoaded l.sent shown e
  | ok bytes =>
      dsimp only
      cases Reading.ofBytes bytes with
      | error e => exact .notRead l.sent shown e
      | ok reading => exact course_publish files settings l.sent l.log reading

theorem course_run (arguments : List String) (environment : Environment) (files : FileTree)
    (network : Http.Network) : Course files (run arguments environment files network) := by
  unfold run
  cases readSettings arguments environment with
  | error refusal =>
      cases refusal with
      | help => exact .helped
      | usage e => exact .refused e
  | ok settings => exact course_runSettings files network settings

/-! ## Failures -/

theorem files_failed (files : FileTree) (sent : List Http.Request) (log : String) (f : Failure) :
    (failed files sent log f).files = files := by
  rw [failed]
  split <;> rfl

theorem standardOutput_failed (files : FileTree) (sent : List Http.Request) (log : String)
    (f : Failure) : (failed files sent log f).standardOutput = "" := by
  rw [failed]
  split <;> rfl

theorem ending_failed (files : FileTree) (sent : List Http.Request) (log : String) (f : Failure) :
    (failed files sent log f).ending = if f.isReported then .exit 1 else .failure f := by
  rw [failed]
  split <;> rfl

/-- A failure never ends a run the way a refusal of the arguments does. -/
theorem ending_failed_ne_exit_two (files : FileTree) (sent : List Http.Request) (log : String)
    (f : Failure) : (failed files sent log f).ending ≠ .exit 2 := by
  rw [ending_failed]
  split <;> simp

/-! ## What is printed -/

theorem head?_help : help.toList.head? = some 'u' := by
  unfold help usage
  simp only [String.toList_append, List.append_assoc]
  rfl

/-- The line about a document at a path with `n` paths and `m` definitions. -/
def generatedText (path : String) (n m : Nat) : String :=
  "Generated " ++ path ++ " (" ++ toString n ++ " paths, " ++ toString m ++ " definitions)\n"

theorem summary_eq_generatedText (path : Path) (d : Swagger.Document) :
    summary path d = generatedText path.toText d.paths.size d.definitions.size := rfl

theorem head?_generatedText (path : String) (n m : Nat) :
    (generatedText path n m).toList.head? = some 'G' := by
  unfold generatedText
  simp only [String.toList_append, List.append_assoc]
  rfl

theorem generatedText_ne_help (path : String) (n m : Nat) : generatedText path n m ≠ help := by
  intro h
  have hhead := head?_generatedText path n m
  rw [h, head?_help] at hhead
  exact absurd hhead (by decide)

theorem generatedText_ne_empty (path : String) (n m : Nat) : generatedText path n m ≠ "" := by
  intro h
  have hhead := head?_generatedText path n m
  rw [h] at hhead
  cases hhead

theorem help_ne_empty : help ≠ "" := by
  intro h
  have hhead := head?_help
  rw [h] at hhead
  cases hhead

theorem generated_notInfix_empty : ¬ "Generated".toList <:+: "".toList := by
  decide

/-- A text occurs behind a part of another one if no end of that part agrees with it as far as both
go. -/
theorem not_infix_append {t part s : List Char}
    (hpart : ∀ u ∈ part.tails, u = [] ∨ ¬ u.take t.length <+: t) (hs : ¬ t <:+: s) :
    ¬ t <:+: (String.ofList part).toList ++ s := by
  rw [String.toList_ofList]
  induction part with
  | nil => exact hs
  | cons d part ih =>
      rw [List.tails_cons, List.forall_mem_cons] at hpart
      rw [List.cons_append, List.infix_cons_iff, not_or]
      refine ⟨fun ht => ?_, ih hpart.2⟩
      have hcut : (d :: part).take t.length <+: d :: (part ++ s) :=
        (List.take_prefix t.length (d :: part)).trans (List.prefix_append (d :: part) s)
      exact hpart.1.resolve_left (List.cons_ne_nil d part)
        (List.prefix_of_prefix_length_le hcut ht (List.length_take_le t.length (d :: part)))

theorem generated_notInfix_help : ¬ "Generated".toList <:+: help.toList := by
  unfold help usage
  simp only [String.toList_append, List.append_assoc]
  -- One line at a time: the word neither stands in a line nor runs on into the next one.
  iterate 16 refine not_infix_append (by decide +kernel) ?_
  decide +kernel

/-! ## Runs that publish nothing -/

/-- Seen from outside, a run published nothing: it reported a failure, refused its arguments, showed
the help, or was ended by a failure to load or to read the metadata. -/
def Run.IsUnpublished (r : Run) : Prop :=
  r.ending = .exit 1 ∨ r.ending = .exit 2 ∨ r.standardOutput = help ∨
    (∃ e, r.ending = .failure (.load e)) ∨ ∃ e, r.ending = .failure (.read e)

theorem not_isUnpublished_notWritten (after : FileTree) (sent : List Http.Request) (log : String)
    (e : OutputError) : ¬ (failed after sent log (.write e)).IsUnpublished := by
  have hending : (failed after sent log (.write e)).ending = .failure (.write e) :=
    ending_failed after sent log (.write e)
  rw [Run.IsUnpublished, hending, standardOutput_failed]
  simp [help_ne_empty.symm]

theorem not_isUnpublished_published (after : FileTree) (sent : List Http.Request) (log : String)
    (path : Path) (document : Swagger.Document) :
    ¬ Run.IsUnpublished ⟨after, sent, summary path document, log, .exit 0⟩ := by
  simp [Run.IsUnpublished, summary_eq_generatedText, generatedText_ne_help]

/-- What holds of a run that publishes nothing, whatever its course: the files are as they were,
nothing was said to be generated, and there were requests only if the arguments were understood. -/
structure Untouched (files : FileTree) (r : Run) : Prop where
  files_eq : r.files = files
  not_generated : ¬ "Generated".toList <:+: r.standardOutput.toList
  requests_eq : r.ending = .exit 2 ∨ r.standardOutput = help → r.requests = []

theorem untouched_failed (files : FileTree) (sent : List Http.Request) (log : String)
    (f : Failure) : Untouched files (failed files sent log f) where
  files_eq := files_failed files sent log f
  not_generated := by
    rw [standardOutput_failed]
    exact generated_notInfix_empty
  requests_eq h := by
    rw [standardOutput_failed] at h
    rcases h with h | h
    · exact absurd h (ending_failed_ne_exit_two files sent log f)
    · exact absurd h.symm help_ne_empty

theorem Course.untouched {files : FileTree} {r : Run} (hr : Course files r)
    (h : r.IsUnpublished) : Untouched files r := by
  cases hr with
  | helped => exact ⟨rfl, generated_notInfix_help, fun _ => rfl⟩
  | refused e => exact ⟨rfl, generated_notInfix_empty, fun _ => rfl⟩
  | notLoaded sent log e => exact untouched_failed files sent log (.load e)
  | notRead sent log e => exact untouched_failed files sent log (.read e)
  | notWritten after sent log e =>
      exact absurd h (not_isUnpublished_notWritten after sent log e)
  | published after sent log path document =>
      exact absurd h (not_isUnpublished_published after sent log path document)

/-- A run that publishes nothing leaves all files as they were and does not say that it generated
any; without usable arguments it does not even ask the network. -/
theorem files_run_of_unpublished (arguments : List String) (environment : Environment)
    (files : FileTree) (network : Http.Network)
    (h : (run arguments environment files network).IsUnpublished) :
    (run arguments environment files network).files = files ∧
      ¬ "Generated".toList <:+:
        (run arguments environment files network).standardOutput.toList ∧
      ((run arguments environment files network).ending = .exit 2 ∨
          (run arguments environment files network).standardOutput = help →
        (run arguments environment files network).requests = []) := by
  obtain ⟨hfiles, hgenerated, hrequests⟩ :=
    (course_run arguments environment files network).untouched h
  exact ⟨hfiles, hgenerated, hrequests⟩

theorem files_run_of_unpublished_missingSource :
    (run ["metadata.xml"] {} ⟨["home"], []⟩ []).ending = .exit 1 ∧
      (run ["metadata.xml"] {} ⟨["home"], []⟩ []).files = ⟨["home"], []⟩ ∧
      (run ["--no-ui"] {} ⟨["home"], []⟩ []).ending = .exit 2 ∧
      (run ["--no-ui"] {} ⟨["home"], []⟩ []).requests = [] := by
  have hone : (run ["metadata.xml"] {} ⟨["home"], []⟩ []).ending = .exit 1 := by
    have hsettings : readSettings ["metadata.xml"] {} =
        .ok ⟨some "metadata.xml", none, none, "generated", true, false⟩ := by
      cbv
    have hpath : Path.ofText "metadata.xml" = ⟨"", ["metadata.xml"]⟩ := by
      cbv
    have hread : FileTree.read ⟨["home"], []⟩ ⟨"", ["metadata.xml"]⟩ = .error .missing := by
      cbv
    have haddress : Source.isAddress "metadata.xml" = false := by
      cbv
    rw [run, hsettings]
    simp only [runSettings, Source.load, haddress, Source.loadFile, hpath, hread, Except.mapError,
      Option.getD_some, Bool.false_eq_true, if_false, ending_failed]
    rfl
  have htwo : (run ["--no-ui"] {} ⟨["home"], []⟩ []).ending = .exit 2 := by
    have hsettings : readSettings ["--no-ui"] {} = .error (.usage .missingSource) := by
      cbv
    rw [run, hsettings]
  exact ⟨hone, (files_run_of_unpublished _ _ _ _ (.inl hone)).1, htwo,
    (files_run_of_unpublished _ _ _ _ (.inr (.inl htwo))).2.2 (.inl htwo)⟩

/-! ## A home directory -/

/-- A home directory with a file of metadata. -/
def metadataHome (content : List UInt8) : FileTree :=
  ⟨["home"], [(["home", "m.xml"], .file content)]⟩

theorem readSettings_metadataHome :
    readSettings ["m.xml"] {} = .ok ⟨some "m.xml", none, none, "generated", true, false⟩ := by
  cbv

theorem outcome_load_metadataHome (content : List UInt8) :
    (Source.load (metadataHome content) [] true "m.xml").outcome = .ok content := by
  have haddress : Source.isAddress "m.xml" = false := by
    cbv
  have hpath : Path.ofText "m.xml" = ⟨"", ["m.xml"]⟩ := by
    cbv
  have hread : (metadataHome content).read ⟨"", ["m.xml"]⟩ = .ok content := by
    cbv
  rw [Source.load, haddress, if_neg Bool.false_ne_true, Source.loadFile, hpath, hread]
  rfl

end ServiceDoc.CommandLine
