import ServiceDoc.CommandLine.Settings
import ServiceDoc.Csdl.Reading
import ServiceDoc.Output
import ServiceDoc.Source.Load
import ServiceDoc.Swagger.Document
/-!
# Runs

A run of the program from its arguments to its exit: it loads metadata, reads the entity sets in it,
converts them to a document, and writes that to the output directory. Nothing is written before all
of the input has been understood.

A failure to obtain or to understand the metadata is reported in one line. Faults of the
environment, such as a directory that cannot be written to or an encoding that nobody knows, are
not: they end the run as they are.
-/

namespace ServiceDoc.CommandLine

open Csdl (Reading)
open Output (OutputError)
open Source (LoadError)

/-- What makes a run fail after its arguments were understood. -/
inductive Failure where
  | load (e : LoadError)
  | read (e : Xml.DocumentError)
  | write (e : OutputError)
  deriving DecidableEq, Repr

def reportsLoad : LoadError → Bool
  | .address _ => false
  | .exchange (.badAddress _) => false
  | .exchange (.unknownScheme _) => false
  | .exchange _ => true
  | .status _ _ => true
  | .file _ _ f => f ≠ .embeddedNul

namespace Failure

def isReported : Failure → Bool
  | load e => reportsLoad e
  | read e => Csdl.isInvalid e
  | write _ => false

def message : Failure → String
  | load e => e.message
  | read e => Csdl.errorMessage e
  | write e => e.message

end Failure

/-- How a run ends. -/
inductive Ending where
  /-- With an exit status. -/
  | exit (status : Nat)
  /-- With a failure that the run does not report itself. -/
  | failure (f : Failure)
  deriving DecidableEq, Repr

/-- What a run leaves behind. -/
structure Run where
  files : FileTree
  sent : List Http.Request := []
  standardOutput : String := ""
  standardError : String := ""
  ending : Ending := .exit 0

/-- The addresses of the requests. -/
def Run.requests (r : Run) : List Uri := r.sent.map Http.Request.address

def shownLog (verbose : Bool) (log : List LogRecord) : String :=
  String.join ((log.filter (·.isShown verbose)).map LogRecord.line)

def failed (files : FileTree) (sent : List Http.Request) (log : String) (f : Failure) : Run :=
  if f.isReported then
    ⟨files, sent, "", log ++ "error: " ++ f.message ++ "\n", .exit 1⟩
  else ⟨files, sent, "", log, .failure f⟩

def summary (path : Path) (d : Swagger.Document) : String :=
  "Generated " ++ path.toText ++ " (" ++ toString d.paths.size ++ " paths, "
    ++ toString d.definitions.size ++ " definitions)\n"

/-- The run that publishes entity sets; `log` holds the records so far. -/
def publish (files : FileTree) (settings : Settings) (sent : List Http.Request)
    (log : List LogRecord) (reading : Reading) : Run :=
  let document := Swagger.Document.ofSets reading.sets ⟨settings.host, settings.basePath⟩
  let w := Output.generate files document.toJson (.ofText settings.output) settings.withPage
  let shown := shownLog settings.verbose (log ++ reading.log ++ w.log)
  match w.outcome with
  | .error e => failed w.files sent shown (.write e)
  | .ok paths =>
    ⟨w.files, sent, summary (paths.headD (.ofText settings.output)) document, shown, .exit 0⟩

def Settings.paths (s : Settings) : List Path :=
  let directory := Path.ofText s.output
  let source := s.source.getD ""
  [directory.child Output.documentName, directory.child Output.pageName] ++
    (if Source.isAddress source then [] else [.ofText source])

def runSettings (files : FileTree) (network : Http.Network) (settings : Settings) : Run :=
  let l := Source.load files network true (settings.source.getD "")
  let shown := shownLog settings.verbose l.log
  match l.outcome with
  | .error e => failed files l.sent shown (.load e)
  | .ok bytes =>
    match Reading.ofBytes bytes with
    | .error e => failed files l.sent shown (.read e)
    | .ok reading => publish files settings l.sent l.log reading

def run (arguments : List String) (environment : Environment) (files : FileTree)
    (network : Http.Network) : Run :=
  match readSettings arguments environment with
  | .error .help => { files := files, standardOutput := help }
  | .error (.usage e) =>
    ⟨files, [], "", usage ++ "odata_swagger: error: " ++ e.message ++ "\n", .exit 2⟩
  | .ok settings => runSettings files network settings

end ServiceDoc.CommandLine
