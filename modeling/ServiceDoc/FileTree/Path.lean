/-!
# Paths

The way to a file as people write it, without what has no effect: empty segments and the segment `.`
are dropped. A segment `..` stays, as what it stands for depends on the files. Two slashes at the
beginning differ from one, and three or more count as one.
-/

namespace ServiceDoc

structure Path where
  /-- The slashes at the beginning; none where the path starts at the working directory. -/
  root : String := ""
  segments : List String
  deriving DecidableEq, Repr

namespace Path

/-- The slashes that a text begins with, as they count, and what follows them. -/
def splitRoot : List Char → String × List Char
  | '/' :: '/' :: '/' :: r => ("/", r)
  | '/' :: '/' :: r => ("//", r)
  | '/' :: r => ("/", r)
  | r => ("", r)

def ofText (text : String) : Path :=
  let (root, r) := splitRoot text.toList
  ⟨root, ((r.splitOn '/').map String.ofList).filter fun s => !s.isEmpty && s ≠ "."⟩

/-- The text of a path; a path without segments is that of its beginning. -/
def toText (p : Path) : String :=
  if p.root.isEmpty && p.segments.isEmpty then "."
  else p.root ++ "/".intercalate p.segments

def child (p : Path) (name : String) : Path := { p with segments := p.segments ++ [name] }

def parent (p : Path) : Path := { p with segments := p.segments.dropLast }

end Path

end ServiceDoc
