import ServiceDoc.FileTree.Basic
import ServiceDoc.Json.Text
import ServiceDoc.Log
import ServiceDoc.Page
import ServiceDoc.Text.Utf8
/-!
# Output

The files that a run leaves in its output directory: the document, and the page that shows it. The
directory is made with all directories on the way. A page is composed before anything is made for
it, so a document that has no title to show leaves no trace.
-/

namespace ServiceDoc.Output

/-- Why a file is not written. -/
inductive OutputError where
  | file (f : FileFault) (path : Path)
  /-- A value of that kind stands where the page looks for the members of an object. -/
  | noMembers (kind : String)
  deriving DecidableEq, Repr

def OutputError.message : OutputError → String
  | file f path => f.message path
  | noMembers kind => "'" ++ kind ++ "' object has no attribute 'get'"

/-- What writing leads to: the files afterwards, the log, and a result or the reason why there is
none. -/
structure Written (α : Type) where
  files : FileTree
  log : List LogRecord
  outcome : Except OutputError α

def documentName : String := "swagger.json"

def pageName : String := "index.html"

def writeText (files : FileTree) (directory : Path) (name text : String) : Written Path :=
  match files.ensureDirectories directory with
  | (files, .error (f, p)) => ⟨files, [], .error (.file f p)⟩
  | (files, .ok ()) =>
    let path := directory.child name
    match files.write path (Text.utf8 text.toList) with
    | .error f => ⟨files, [], .error (.file f path)⟩
    | .ok files =>
      ⟨files, [⟨.debug, "odata_swagger.codegen", "Wrote " ++ path.toText⟩], .ok path⟩

def writeDocument (files : FileTree) (document : Json) (directory : Path) : Written Path :=
  writeText files directory documentName document.documentText

/-- Writes the page that shows the document in a file, whose name need not be a text. -/
def writePage (files : FileTree) (document : Json) (directory : Path) (file : Json) :
    Written Path :=
  match Page.title document with
  | .error kind => ⟨files, [], .error (.noMembers kind)⟩
  | .ok title => writeText files directory pageName (Page.render title file.plain)

/-- Writes a document and, if it is wanted, its page. The result lists what was written. -/
def generate (files : FileTree) (document : Json) (directory : Path) (withPage : Bool) :
    Written (List Path) :=
  let d := writeDocument files document directory
  match d.outcome with
  | .error e => ⟨d.files, d.log, .error e⟩
  | .ok path =>
    if withPage then
      let p := writePage d.files document directory (.str documentName)
      ⟨p.files, d.log ++ p.log, p.outcome.map fun page => [path, page]⟩
    else ⟨d.files, d.log, .ok [path]⟩

end ServiceDoc.Output
