import ServiceDoc.CommandLine.Switch
import ServiceDoc.Text.Digit
import ServiceDoc.Text.Quoted
/-!
# Arguments

What a single argument is: a switch, with the value that is attached to it, or an operand. A long
switch may be cut short as long as only one fits, and takes a value behind an equals sign; short
switches take it directly, and those that take none may be put together. What looks like a negative
number or has a space in it is an operand even if it begins with a hyphen.

Behind the argument `--` everything is an operand.
-/

namespace ServiceDoc.CommandLine

/-- What is attached to a switch. -/
inductive Attachment where
  | nothing
  /-- A text directly behind the switch. -/
  | direct (text : List Char)
  /-- A text behind an equals sign. -/
  | assigned (text : List Char)
  deriving DecidableEq, Repr

inductive Argument where
  | operand (text : String)
  | switch (s : Switch) (short : Bool) (attached : Attachment)
  /-- An argument that looks like a switch and is none. -/
  | unknown (text : String)
  /-- The argument `--`. -/
  | separator
  deriving DecidableEq, Repr

/-- Why the arguments cannot be used. -/
inductive UsageError where
  | ambiguous (argument : String) (spellings : List String)
  | missingValue (s : Switch)
  | needlessValue (s : Switch) (value : List Char)
  | unrecognized (arguments : List String)
  | missingSource
  deriving DecidableEq, Repr

def UsageError.message : UsageError → String
  | ambiguous argument spellings =>
    "ambiguous option: " ++ argument ++ " could match " ++ ", ".intercalate spellings
  | missingValue s => "argument " ++ s.display ++ ": expected one argument"
  | needlessValue s value =>
    "argument " ++ s.display ++ ": ignored explicit argument "
      ++ Text.quoted (String.ofList value)
  | unrecognized arguments => "unrecognized arguments: " ++ " ".intercalate arguments
  | missingSource => "a metadata source is required (argument or ODATA_METADATA)"

def isDigits (cs : List Char) : Bool := cs.all fun c => (Text.digitValue? c).isSome

/-- Whether a text behind a hyphen makes it a negative number: digits, or digits behind a point and
perhaps before it. A line feed at the end does not count. -/
def looksNumeric (cs : List Char) : Bool :=
  let cs := if cs.getLast? = some '\n' then cs.dropLast else cs
  match cs.span (· ≠ '.') with
  | (ds, []) => !ds.isEmpty && isDigits ds
  | (ds, _ :: r) => isDigits ds && !r.isEmpty && isDigits r

def splitAssigned (text : String) : String × Attachment :=
  match text.toList.span (· ≠ '=') with
  | (_, []) => (text, .nothing)
  | (name, _ :: value) => (String.ofList name, .assigned value)

def completions (name : String) : List (String × Switch) :=
  Switch.spellings.filter fun e => name.toList.isPrefixOf e.1.toList

/-- What an argument is that begins with a hyphen and is no switch. -/
def noSwitch (text : String) : Argument :=
  if looksNumeric text.toList.tail || text.contains ' ' then .operand text else .unknown text

namespace Argument

def isShort (spelling : String) : Bool := spelling.length = 2

def ofText (text : String) : Except UsageError Argument :=
  match text.toList with
  | '-' :: c :: r =>
    match Switch.ofSpelling? text with
    | some s => .ok (.switch s (isShort text) .nothing)
    | none =>
      let (name, attached) := splitAssigned text
      match if attached = .nothing then none else Switch.ofSpelling? name with
      | some s => .ok (.switch s (isShort name) attached)
      | none =>
        if c = '-' then
          match completions name with
          | [] => .ok (noSwitch text)
          | [(_, s)] => .ok (.switch s false attached)
          | es => .error (.ambiguous text (es.map Prod.fst))
        else
          match Switch.ofSpelling? (String.ofList ['-', c]) with
          | some s => .ok (.switch s true (.direct r))
          | none => .ok (noSwitch text)
  | _ => .ok (.operand text)

def ofTexts : List String → Except UsageError (List Argument)
  | [] => .ok []
  | t :: ts =>
    if t = "--" then .ok (.separator :: ts.map .operand)
    else
      match ofText t with
      | .error e => .error e
      | .ok a =>
        match ofTexts ts with
        | .error e => .error e
        | .ok as => .ok (a :: as)

end Argument

end ServiceDoc.CommandLine
