import ServiceDoc.Text.Numeral
import ServiceDoc.Text.Quoted
import ServiceDoc.Uri.Host
import ServiceDoc.Uri.Idna
/-!
# Addresses

Addresses of resources in normal form: scheme and host in lower case, the port only where it is not
the usual one, dot segments removed, and every character that has no place in its component written
as percent codes. An absent query or fragment differs from an empty one.
-/

namespace ServiceDoc

/-- An address in normal form. The host is written without the brackets of a numeric address. -/
structure Uri where
  scheme : String
  userinfo : String
  host : String
  port? : Option Int
  path : String
  query? : Option String
  fragment? : Option String
  deriving DecidableEq, Repr

/-- Why a text is no address. -/
inductive UriError where
  | tooLong
  | componentTooLong (component : String)
  | control (c : Char) (position : Nat)
  | componentControl (component : String) (c : Char) (position : Nat)
  | invalidComponent (component : String)
  | invalidPort (port : String)
  | invalidIpv4 (host : String)
  | invalidIpv6 (host : String)
  | invalidIdna (host : String)
  | relativeToAuthority
  | relativeSlashes
  | relativeColon
  deriving DecidableEq, Repr

def UriError.message : UriError → String
  | tooLong => "URL too long"
  | componentTooLong component => "URL component '" ++ component ++ "' too long"
  | control c position =>
    "Invalid non-printable ASCII character in URL, " ++ Text.quoted (String.singleton c)
      ++ " at position " ++ toString position ++ "."
  | componentControl component c position =>
    "Invalid non-printable ASCII character in URL " ++ component ++ " component, "
      ++ Text.quoted (String.singleton c) ++ " at position " ++ toString position ++ "."
  | invalidComponent component => "Invalid URL component '" ++ component ++ "'"
  | invalidPort port => "Invalid port: " ++ Text.quoted port
  | invalidIpv4 host => "Invalid IPv4 address: " ++ Text.quoted host
  | invalidIpv6 host => "Invalid IPv6 address: " ++ Text.quoted host
  | invalidIdna host => "Invalid IDNA hostname: " ++ Text.quoted host
  | relativeToAuthority => "For absolute URLs, path must be empty or begin with '/'"
  | relativeSlashes => "Relative URLs cannot have a path starting with '//'"
  | relativeColon => "Relative URLs cannot have a path starting with ':'"

namespace Uri

/-! ## Components -/

structure Parts where
  scheme : List Char := []
  authority : List Char := []
  path : List Char := []
  query? : Option (List Char) := none
  fragment? : Option (List Char) := none
  deriving Repr

def isSchemeChar (c : Char) : Bool := c.isAlphanum || c = '+' || c = '.' || c = '-'

/-- A text split behind its scheme; without one, the scheme is empty. -/
def splitScheme (cs : List Char) : List Char × List Char :=
  match cs.span isSchemeChar with
  | ([], ':' :: r) => ([], r)
  | (c :: s, ':' :: r) => if c.isAlpha then (c :: s, r) else ([], cs)
  | _ => ([], cs)

/-- A text split before its authority ends; without one, the authority is empty. -/
def splitAuthority : List Char → List Char × List Char
  | '/' :: '/' :: r => r.span fun c => c ≠ '/' ∧ c ≠ '?' ∧ c ≠ '#'
  | r => ([], r)

/-- The components of a text. Every text has components, if empty ones. -/
def Parts.ofText (cs : List Char) : Parts :=
  let (scheme, r) := splitScheme cs
  let (authority, r) := splitAuthority r
  let (path, r) := r.span fun c => c ≠ '?' ∧ c ≠ '#'
  let (query?, r) :=
    match r with
    | '?' :: r => let (q, r) := r.span (· ≠ '#'); (some q, r)
    | r => (none, r)
  let fragment? :=
    match r with
    | '#' :: r => some r
    | _ => none
  ⟨scheme, authority, path, query?, fragment?⟩

/-- A text split at the last place of a character, which belongs to neither part; without it, the
first part is empty. -/
def splitLast (separator : Char) (cs : List Char) : List Char × List Char :=
  match cs.reverse.span (· ≠ separator) with
  | (last, _ :: before) => (before.reverse, last.reverse)
  | (_, []) => ([], cs)

/-- The host and the port in what follows the user information. A host in brackets ends at the last
bracket, any other at the first colon. -/
def splitHost (cs : List Char) : List Char × List Char :=
  let (host, r) :=
    match cs, cs.reverse.span (· ≠ ']') with
    | '[' :: _, (r, ']' :: h) => ((']' :: h).reverse, r.reverse)
    | _, _ => cs.span (· ≠ ':')
  match r with
  | ':' :: port => (host, port)
  | port => (host, port)

def usualPort? (scheme : List Char) : Option Int :=
  match String.ofList scheme with
  | "ftp" => some 21
  | "http" => some 80
  | "https" => some 443
  | "ws" => some 80
  | "wss" => some 443
  | _ => none

/-- The port that a text writes, if it is not the usual one. -/
def readPort (scheme port : List Char) : Except UriError (Option Int) :=
  if port.isEmpty then .ok none
  else
    match Text.numeral? port with
    | none => .error (.invalidPort (String.ofList port))
    | some n => .ok (if some n = usualPort? scheme then none else some n)

def readHost (host : List Char) : Except UriError (List Char) :=
  if host.isEmpty then .ok []
  else if looksIpv4 host then
    if isIpv4 host then .ok host else .error (.invalidIpv4 (String.ofList host))
  else if host.head? = some '[' && host.getLast? = some ']' then
    if isIpv6 host.tail.dropLast then .ok host.tail.dropLast
    else .error (.invalidIpv6 (String.ofList host))
  else if host.all (·.toNat < 0x80) then
    .ok (percentEncode isHostSafe (host.map Char.toLower))
  else
    match Idna.encode? host with
    | some h => .ok h
    | none => .error (.invalidIdna (String.ofList host))

/-! ## Paths -/

/-- The segments of a path without `.` and without `..`, which takes the segment before it away;
`acc` holds those so far, the last one first. The empty segment that begins an absolute path
stays. -/
def removeDots (acc : List (List Char)) : List (List Char) → List (List Char)
  | [] => acc.reverse
  | ['.'] :: r => removeDots acc r
  | ['.', '.'] :: r => removeDots (if acc = [[]] then acc else acc.tail) r
  | s :: r => removeDots (s :: acc) r

def segments (path : List Char) : List (List Char) := path.splitOn '/'

def joinSegments (ss : List (List Char)) : List Char := ['/'].intercalate ss

def normalizePath (path : List Char) : List Char := joinSegments (removeDots [] (segments path))

def pathError? (hasScheme hasAuthority : Bool) (path : List Char) : Option UriError :=
  if hasAuthority && !path.isEmpty && path.head? ≠ some '/' then some .relativeToAuthority
  else if !hasScheme && !hasAuthority && path.take 2 = ['/', '/'] then some .relativeSlashes
  else if !hasScheme && !hasAuthority && path.head? = some ':' then some .relativeColon
  else none

/-! ## Reading and writing -/

/-- The address that components make, each brought into its normal form. -/
def ofParts (p : Parts) : Except UriError Uri :=
  let (userinfo, rest) := splitLast '@' p.authority
  let (host, port) := splitHost rest
  let userinfo := percentEncode isUserSafe userinfo
  match readHost host with
  | .error e => .error e
  | .ok host =>
    match readPort p.scheme port with
    | .error e => .error e
    | .ok port? =>
      let hasScheme := !p.scheme.isEmpty
      let hasAuthority := !userinfo.isEmpty || !host.isEmpty || port?.isSome
      match pathError? hasScheme hasAuthority p.path with
      | some e => .error e
      | none =>
        let path := if hasScheme || hasAuthority then normalizePath p.path else p.path
        .ok {
          scheme := String.ofList (p.scheme.map Char.toLower)
          userinfo := String.ofList userinfo
          host := String.ofList host
          port? := port?
          path := String.ofList (percentEncode isPathSafe path)
          query? := p.query?.map fun q => String.ofList (percentEncode isQuerySafe q)
          fragment? := p.fragment?.map fun f => String.ofList (percentEncode isFragmentSafe f) }

/-- The greatest length of an address and of its components. -/
def maxLength : Nat := 65536

def isControl (c : Char) : Bool := c.toNat < 0x20 || c.toNat = 0x7F

def firstControl? (index : Nat) : List Char → Option (Char × Nat)
  | [] => none
  | c :: r => if isControl c then some (c, index) else firstControl? (index + 1) r

def ofList (cs : List Char) : Except UriError Uri :=
  if maxLength < cs.length then .error .tooLong
  else
    match firstControl? 0 cs with
    | some (c, i) => .error (.control c i)
    | none => ofParts (.ofText cs)

def parse (text : String) : Except UriError Uri := ofList text.toList

/-- User information, host and port, as an address holds them. -/
def authority (u : Uri) : List Char :=
  let host := u.host.toList
  (if u.userinfo.isEmpty then [] else u.userinfo.toList ++ ['@'])
    ++ (if host.contains ':' then '[' :: host ++ [']'] else host)
    ++ (match u.port? with
      | none => []
      | some n => ':' :: (toString n).toList)

def parts (u : Uri) : Parts :=
  ⟨u.scheme.toList, u.authority, u.path.toList, u.query?.map String.toList,
    u.fragment?.map String.toList⟩

/-- The text of components: a separator stands only where there is something to separate. -/
def Parts.toList (p : Parts) : List Char :=
  (if p.scheme.isEmpty then [] else p.scheme ++ [':'])
    ++ (if p.authority.isEmpty then [] else '/' :: '/' :: p.authority)
    ++ p.path
    ++ (match p.query? with
      | none => []
      | some q => '?' :: q)
    ++ (match p.fragment? with
      | none => []
      | some f => '#' :: f)

def toText (u : Uri) : String := String.ofList u.parts.toList

/-- The path that the percent codes of an address stand for; an empty path is that of the root. -/
def decodedPath (u : Uri) : List Char :=
  percentDecode (if u.path.isEmpty then ['/'] else u.path.toList)

/-! ## Replacing components -/

/-- Whether a text may stand for a component that must not hold some characters. -/
def componentError? (component : String) (excluded : List Char) (cs : List Char) :
    Option UriError :=
  if maxLength < cs.length then some (.componentTooLong component)
  else
    match firstControl? 0 cs with
    | some (c, i) => some (.componentControl component c i)
    | none => if cs.any excluded.contains then some (.invalidComponent component) else none

/-- The first component that may not stand where it does. -/
def Parts.error? (p : Parts) : Option UriError :=
  componentError? "scheme" [] p.scheme
    <|> componentError? "authority" ['/', '?', '#'] p.authority
    <|> componentError? "path" ['?', '#'] p.path
    <|> p.query?.bind (componentError? "query" ['#'])
    <|> p.fragment?.bind (componentError? "fragment" [])

/-- An address made of components that need not come from a text. -/
def ofCheckedParts (p : Parts) : Except UriError Uri :=
  match p.error? with
  | some e => .error e
  | none => ofParts p

/-- An address with another path, given without percent codes. -/
def withPath (u : Uri) (path : List Char) : Except UriError Uri :=
  ofCheckedParts { u.parts with path := path }

end Uri

end ServiceDoc
