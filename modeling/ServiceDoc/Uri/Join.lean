import ServiceDoc.Uri.Basic
/-!
# Relative references

What a reference means where it stands in the document at a base address: components that the
reference leaves out come from the base, and a relative path starts from the directory of the base.
A query or a fragment that is empty does not survive.
-/

namespace ServiceDoc.Uri

def isHierarchical (scheme : List Char) : Bool :=
  ["", "ftp", "http", "gopher", "nntp", "imap", "wais", "file", "https", "shttp", "mms", "prospero",
    "rtsp", "rtsps", "rtspu", "sftp", "svn", "svn+ssh", "ws", "wss"].contains (String.ofList scheme)

/-- A path split before the parameters of its last segment. -/
def splitParameters (path : List Char) : List Char × List Char :=
  let (last, before) := path.reverse.span (· ≠ '/')
  let (name, parameters) := last.reverse.span (· ≠ ';')
  (before.reverse ++ name, parameters)

/-- The segments that `..` leaves; a segment `.` is none. -/
def resolveSegments (acc : List (List Char)) : List (List Char) → List (List Char)
  | [] => acc.reverse
  | ['.', '.'] :: r => resolveSegments acc.tail r
  | ['.'] :: r => resolveSegments acc r
  | s :: r => resolveSegments (s :: acc) r

/-- The directory of a path, as segments. -/
def directorySegments (path : List Char) : List (List Char) :=
  let ss := segments path
  if ss.getLast? = some [] then ss else ss.dropLast

def dropInnerEmpty : List (List Char) → List (List Char)
  | [] => []
  | [s] => [s]
  | s :: r => s :: r.dropLast.filter (fun t => !t.isEmpty) ++ r.getLast?.toList

def joinPath (base path : List Char) : List Char :=
  let ss :=
    if path.head? = some '/' then segments path
    else dropInnerEmpty (directorySegments base ++ segments path)
  let resolved := resolveSegments [] ss
  let resolved :=
    if ss.getLast? = some ['.'] ∨ ss.getLast? = some ['.', '.'] then resolved ++ [[]] else resolved
  let joined := joinSegments resolved
  if joined.isEmpty then ['/'] else joined

def nonEmpty (o : Option (List Char)) : Option (List Char) := o.filter fun cs => !cs.isEmpty

/-- The text of components that keeps an authority apart from the path. -/
def writeJoined (p : Parts) : List Char :=
  let path :=
    if p.path.isEmpty || p.path.head? = some '/' then p.path else '/' :: p.path
  let written : Parts :=
    { p with authority := [], path := '/' :: '/' :: p.authority ++ path,
             query? := nonEmpty p.query?, fragment? := nonEmpty p.fragment? }
  written.toList

/-- The text of the address that a reference means at a base. -/
def joinText (base reference : List Char) : List Char :=
  if reference.isEmpty then base
  else
    let b := Parts.ofText base
    let r := Parts.ofText reference
    let scheme := if r.scheme.isEmpty then b.scheme else r.scheme.map Char.toLower
    if scheme ≠ b.scheme || !isHierarchical scheme then reference
    else if !r.authority.isEmpty then writeJoined { r with scheme := scheme }
    else if r.path.isEmpty then
      writeJoined { b with
        query? := if (nonEmpty r.query?).isSome then r.query? else b.query?
        fragment? := r.fragment? }
    else
      let (path, parameters) := splitParameters r.path
      let (directory, _) := splitParameters b.path
      writeJoined { r with
        scheme := scheme
        authority := b.authority
        path := joinPath directory path ++ (if parameters = [';'] then [] else parameters) }

def join (base reference : Uri) : Except UriError Uri :=
  ofList (joinText base.parts.toList reference.parts.toList)

def isAbsolute (u : Uri) : Bool := !u.scheme.isEmpty && !u.host.isEmpty

def withHost (u : Uri) (host : String) : Except UriError Uri :=
  ofCheckedParts { u.parts with authority := { u with host := host }.authority }

/-- The text that a fragment stands for; an absent one stands for none. -/
def decodedFragment (u : Uri) : List Char :=
  match u.fragment? with
  | none => []
  | some f => percentDecode f.toList

/-- An address with another fragment, given without percent codes. -/
def withFragment (u : Uri) (fragment : List Char) : Except UriError Uri :=
  ofCheckedParts { u.parts with fragment? := some fragment }

end ServiceDoc.Uri
