import ServiceDoc.CommandLine.Argument
/-!
# Settings

What the arguments and the environment ask for. Arguments take effect in their order, so a request
for help counts only if nothing before it is wrong; a later value replaces an earlier one. The first
operand is the source. What is left over is an error in the end.
-/

namespace ServiceDoc.CommandLine

structure Environment where
  metadata : Option String := none
  host : Option String := none
  basePath : Option String := none
  deriving DecidableEq, Repr

/-- What a run is asked to do. -/
structure Settings where
  source : Option String
  host : Option String
  basePath : Option String
  output : String := "generated"
  withPage : Bool := true
  verbose : Bool := false
  deriving DecidableEq, Repr

/-- Why there are no settings. -/
inductive Refusal where
  /-- Help was asked for. -/
  | help
  | usage (e : UsageError)
  deriving DecidableEq, Repr

/-- Where operands go. -/
inductive SourceSlot where
  | free
  /-- Taken by the argument before. -/
  | justTaken
  | taken
  deriving DecidableEq, Repr

/-- How far the arguments have been used. -/
structure Progress where
  settings : Settings
  slot : SourceSlot := .free
  /-- What is left over, the last one first. -/
  extras : List String := []

namespace Progress

def apply (p : Progress) (s : Switch) : Except Refusal Progress :=
  let p := if p.slot = .free then p else { p with slot := .taken }
  match s with
  | .help => .error .help
  | .noPage => .ok { p with settings := { p.settings with withPage := false } }
  | .verbose => .ok { p with settings := { p.settings with verbose := true } }
  | _ => .ok p

/-- Uses switches without values, in their order. -/
def applyAll (p : Progress) : List Switch → Except Refusal Progress
  | [] => .ok p
  | s :: ss =>
    match p.apply s with
    | .error e => .error e
    | .ok p => p.applyAll ss

def applyValue (p : Progress) (s : Switch) (value : String) : Progress :=
  let p := if p.slot = .free then p else { p with slot := .taken }
  match s with
  | .host => { p with settings := { p.settings with host := some value } }
  | .basePath => { p with settings := { p.settings with basePath := some value } }
  | .output => { p with settings := { p.settings with output := value } }
  | _ => p

def addExtra (p : Progress) (text : String) : Progress :=
  { p with
    slot := if p.slot = .free then .free else .taken
    extras := text :: p.extras }

def addOperand (p : Progress) (text : String) : Progress :=
  if p.slot = .free then
    { p with slot := .justTaken, settings := { p.settings with source := some text } }
  else p.addExtra text

/-- Passes the separator, which goes with the source if that is free or was just taken. -/
def addSeparator (p : Progress) : Progress :=
  if p.slot = .taken then p.addExtra "--"
  else if p.slot = .justTaken then { p with slot := .taken }
  else p

end Progress

/-! ## Groups of short switches -/

/-- How a group of short switches ends. -/
inductive GroupEnd where
  /-- With a switch that takes no value. -/
  | plain
  /-- With a switch and its value. -/
  | value (s : Switch) (text : List Char)
  /-- With a switch whose value is the next argument. -/
  | awaiting (s : Switch)
  /-- With a text that is no switch. -/
  | unknown (text : List Char)
  deriving DecidableEq, Repr

/-- Reads what is attached to a short switch: more switches as long as they take no values. The
result lists those that do not, in their order. -/
def readGroup (s : Switch) (assigned : Bool) (text : List Char) :
    Except UsageError (List Switch × GroupEnd) :=
  if s.takesValue then .ok ([], .value s text)
  else
    match text with
    | [] => .error (.needlessValue s [])
    | c :: r =>
      if assigned || c = '-' then .error (.needlessValue s (c :: r))
      else
        match Switch.ofSpelling? (String.ofList ['-', c]) with
        | none => .ok ([s], .unknown ('-' :: c :: r))
        | some s' =>
          match r with
          | [] => if s'.takesValue then .ok ([s], .awaiting s') else .ok ([s, s'], .plain)
          | '=' :: r => (readGroup s' true r).map fun (ss, last) => (s :: ss, last)
          | d :: r => (readGroup s' false (d :: r)).map fun (ss, last) => (s :: ss, last)

/-- What a switch with its attachment asks for. -/
def readSwitch (s : Switch) (short : Bool) (attached : Attachment) :
    Except UsageError (List Switch × GroupEnd) :=
  match attached with
  | .nothing => if s.takesValue then .ok ([], .awaiting s) else .ok ([s], .plain)
  | .direct text => readGroup s false text
  | .assigned text =>
    if short || s.takesValue then readGroup s true text else .error (.needlessValue s text)

/-! ## All arguments -/

def readArguments (p : Progress) : List Argument → Except Refusal Progress
  | [] => .ok p
  | .operand text :: r => readArguments (p.addOperand text) r
  | .separator :: r => readArguments p.addSeparator r
  | .unknown text :: r => readArguments (p.addExtra text) r
  | .switch s short attached :: r =>
    match readSwitch s short attached with
    | .error e => .error (.usage e)
    | .ok (ss, .awaiting s) =>
      match r with
      | .operand value :: r =>
        match p.applyAll ss with
        | .error e => .error e
        | .ok p => readArguments (p.applyValue s value) r
      | _ => .error (.usage (.missingValue s))
    | .ok (ss, .value s text) =>
      match p.applyAll ss with
      | .error e => .error e
      | .ok p => readArguments (p.applyValue s (String.ofList text)) r
    | .ok (ss, .unknown text) =>
      match (p.addExtra (String.ofList text)).applyAll ss with
      | .error e => .error e
      | .ok p => readArguments p r
    | .ok (ss, .plain) =>
      match p.applyAll ss with
      | .error e => .error e
      | .ok p => readArguments p r

def Environment.settings (e : Environment) : Settings :=
  { source := e.metadata, host := e.host, basePath := e.basePath }

/-- What arguments and environment ask for. An empty source is none. -/
def readSettings (arguments : List String) (environment : Environment) :
    Except Refusal Settings :=
  match Argument.ofTexts arguments with
  | .error e => .error (.usage e)
  | .ok as =>
    match readArguments { settings := environment.settings } as with
    | .error e => .error e
    | .ok p =>
      if p.extras.isEmpty then
        if (p.settings.source.getD "").isEmpty then .error (.usage .missingSource)
        else .ok p.settings
      else .error (.usage (.unrecognized p.extras.reverse))

end ServiceDoc.CommandLine
