import ServiceDoc.FileTree.Path
import ServiceDoc.Text.Quoted
/-!
# File trees

The directories and files that a run sees. A tree is the list of its entries, each with its place:
the names of the directories from the root down, then its own. The root and the directories around
the working directory always exist.

A path is walked segment by segment, and the first segment that leads nowhere is the fault. An
operation that fails leaves the tree as it was, but for directories that were made on the way.
-/

namespace ServiceDoc

/-- What stands at a place. -/
inductive Entry where
  | directory
  | file (content : List UInt8)
  deriving DecidableEq, Repr

abbrev Place := List String

structure FileTree where
  workingDirectory : Place
  entries : List (Place × Entry) := []
  deriving DecidableEq, Repr

/-- Why an operation on files fails. -/
inductive FileFault where
  | missing
  | notDirectory
  | isDirectory
  | alreadyThere
  | nameTooLong
  /-- The path contains the character that ends paths inside the system. -/
  | embeddedNul
  deriving DecidableEq, Repr

/-- The number of a fault, for those that have one. -/
def FileFault.number? : FileFault → Option Nat
  | missing => some 2
  | alreadyThere => some 17
  | notDirectory => some 20
  | isDirectory => some 21
  | nameTooLong => some 36
  | embeddedNul => none

def FileFault.description : FileFault → String
  | missing => "No such file or directory"
  | alreadyThere => "File exists"
  | notDirectory => "Not a directory"
  | isDirectory => "Is a directory"
  | nameTooLong => "File name too long"
  | embeddedNul => "embedded null byte"

def FileFault.message (f : FileFault) (path : Path) : String :=
  match f.number? with
  | none => f.description
  | some n =>
    "[Errno " ++ toString n ++ "] " ++ f.description ++ ": " ++ Text.quoted path.toText

namespace FileTree

/-- The greatest size of a name, in bytes. -/
def maxNameSize : Nat := 255

/-- The greatest size of a path, in bytes. -/
def maxPathSize : Nat := 4095

/-- What stands at a place. -/
def entry? (t : FileTree) (place : Place) : Option Entry :=
  if place.isPrefixOf t.workingDirectory then some .directory else t.entries.lookup place

/-- The entries with one of them set: an entry that was there keeps its position. -/
def setEntry (place : Place) (e : Entry) : List (Place × Entry) → List (Place × Entry)
  | [] => [(place, e)]
  | (q, f) :: r => if q = place then (q, e) :: r else (q, f) :: setEntry place e r

def set (t : FileTree) (place : Place) (e : Entry) : FileTree :=
  { t with entries := setEntry place e t.entries }

/-- The place that segments lead to from a directory, where each of them has to lead to a
directory. -/
def walk (t : FileTree) (place : Place) : List String → Except FileFault Place
  | [] => .ok place
  | s :: r =>
    if s = ".." then walk t place.dropLast r
    else if maxNameSize < s.utf8ByteSize then .error .nameTooLong
    else
      match t.entry? (place ++ [s]) with
      | none => .error .missing
      | some .directory => walk t (place ++ [s]) r
      | some (.file _) => .error .notDirectory

def start (t : FileTree) (p : Path) : Place := if p.root.isEmpty then t.workingDirectory else []

/-- Where a path ends. -/
inductive Target where
  /-- At a name in a directory, whether there is such an entry or not. -/
  | name (place : Place)
  /-- At a directory that was there before the last segment was looked at. -/
  | passed

/-- Where a path ends, if the way there exists. -/
def target (t : FileTree) (p : Path) : Except FileFault Target :=
  if p.toText.contains '\x00' then .error .embeddedNul
  else if maxPathSize < p.toText.utf8ByteSize then .error .nameTooLong
  else
    match p.segments.getLast? with
    | none => .ok .passed
    | some last =>
      match t.walk (t.start p) p.segments.dropLast with
      | .error f => .error f
      | .ok place =>
        if last = ".." then .ok .passed
        else if maxNameSize < last.utf8ByteSize then .error .nameTooLong
        else .ok (.name (place ++ [last]))

def read (t : FileTree) (p : Path) : Except FileFault (List UInt8) :=
  match t.target p with
  | .error f => .error f
  | .ok .passed => .error .isDirectory
  | .ok (.name place) =>
    match t.entry? place with
    | none => .error .missing
    | some .directory => .error .isDirectory
    | some (.file content) => .ok content

/-- The tree with a content written to the file at a path, which is made if it is not there. -/
def write (t : FileTree) (p : Path) (content : List UInt8) : Except FileFault FileTree :=
  match t.target p with
  | .error f => .error f
  | .ok .passed => .error .isDirectory
  | .ok (.name place) =>
    match t.entry? place with
    | some .directory => .error .isDirectory
    | _ => .ok (t.set place (.file content))

/-- Whether there is a directory at a path; a path that is too long is a fault of its own. -/
def isDirectory (t : FileTree) (p : Path) : Bool :=
  match t.target p with
  | .error _ => false
  | .ok .passed => true
  | .ok (.name place) => t.entry? place = some .directory

def makeDirectory (t : FileTree) (p : Path) : Except FileFault FileTree :=
  match t.target p with
  | .error f => .error f
  | .ok .passed => .error .alreadyThere
  | .ok (.name place) =>
    match t.entry? place with
    | some _ => .error .alreadyThere
    | none => .ok (t.set place .directory)

/-- The tree with a directory at a path, new or not. -/
def ensureDirectory (t : FileTree) (p : Path) : Except FileFault FileTree :=
  match t.makeDirectory p with
  | .ok u => .ok u
  | .error f => if f ≠ .embeddedNul && t.isDirectory p then .ok t else .error f

/-- Makes the directory at a path with all directories on the way. The tree comes with the result,
as directories that were made before a fault stay; the fault names the path that it is about. -/
def ensureDirectories (t : FileTree) (p : Path) : FileTree × Except (FileFault × Path) Unit :=
  match t.ensureDirectory p with
  | .ok u => (u, .ok ())
  | .error f =>
    if f = .missing then
      if _h : p.segments = [] then (t, .error (f, p))
      else
        match ensureDirectories t p.parent with
        | (u, .error e) => (u, .error e)
        | (u, .ok ()) =>
          match u.ensureDirectory p with
          | .ok v => (v, .ok ())
          | .error f => (u, .error (f, p))
    else (t, .error (f, p))
termination_by p.segments.length
decreasing_by
  have : 0 < p.segments.length := List.length_pos_iff.2 _h
  simp only [Path.parent, List.length_dropLast]
  omega

/-! ## Routes and changes -/

/-- The places on the way along segments, in their order. -/
def route (place : Place) : List String → List Place
  | [] => []
  | s :: r => if s = ".." then route place.dropLast r else (place ++ [s]) :: route (place ++ [s]) r

/-- The entries of a tree that another one does not have like this. -/
def changes (before after : FileTree) : List (Place × Entry) :=
  after.entries.filter fun (place, e) => before.entry? place ≠ some e

end FileTree

end ServiceDoc
