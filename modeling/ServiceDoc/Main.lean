import ServiceDoc.CommandLine.Run
/-!
# The program

Runs on the files of this machine. What a run may look at is read before it, and what it has changed
is written after it. There is no network here, so services are out of reach.
-/

namespace ServiceDoc.CommandLine

def placeText (place : Place) : String := "/" ++ "/".intercalate place

/-- What stands at a place on this machine. Only a directory holds the entry `.`. -/
def lookAt (place : Place) : IO (Option Entry) := do
  match ← (IO.FS.realPath (placeText place ++ "/.")).toBaseIO with
  | .ok _ => return some .directory
  | .error _ =>
    match ← (IO.FS.readBinFile (placeText place)).toBaseIO with
    | .ok content => return some (.file content.toList)
    | .error _ => return none

def readRoute (files : FileTree) (path : Path) : IO FileTree :=
  (FileTree.route (files.start path) path.segments).foldlM
    (fun files place => return ((← lookAt place).map (files.set place)).getD files) files

def putAt (place : Place) : Entry → IO Unit
  | .directory => IO.FS.createDir (placeText place)
  | .file content => IO.FS.writeBinFile (placeText place) ⟨content.toArray⟩

def readEnvironment : IO Environment :=
  return ⟨← IO.getEnv "ODATA_METADATA", ← IO.getEnv "ODATA_HOST", ← IO.getEnv "ODATA_BASE_PATH"⟩

/-- The files that a run with some arguments may look at. -/
def readFiles (arguments : List String) (environment : Environment) : IO FileTree := do
  let files : FileTree := ⟨(Path.ofText (← IO.currentDir).toString).segments, []⟩
  match readSettings arguments environment with
  | .error _ => return files
  | .ok settings => settings.paths.foldlM readRoute files

end ServiceDoc.CommandLine

open ServiceDoc ServiceDoc.CommandLine in
/-- Runs the program; the result is the exit status. -/
def main (arguments : List String) : IO UInt32 := do
  let environment ← readEnvironment
  let files ← readFiles arguments environment
  let result := run arguments environment files []
  for (place, entry) in files.changes result.files do
    putAt place entry
  IO.print result.standardOutput
  IO.eprint result.standardError
  match result.ending with
  | .exit status => return status.toUInt32
  | .failure f =>
    IO.eprintln f.message
    return 1
