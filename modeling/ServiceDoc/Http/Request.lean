import ServiceDoc.Http.Header
import ServiceDoc.Uri.Join
/-!
# Requests

What a client sends: a method, the address of the resource, and headers. When a reply redirects a
request, the next one asks for another address, with the method that the status of the reply calls
for and without the headers that concern the first request alone.
-/

namespace ServiceDoc.Http

structure Request where
  method : String
  address : Uri
  headers : Headers := []
  deriving DecidableEq, Repr

/-- What is wrong with a host that cannot stand in the head of a request: it has a zone that is not
ASCII, or it begins with Punycode and is not what a name is written as. -/
def hostError? (u : Uri) : Option UriError :=
  let host := u.host.toList
  if !Uri.Idna.isAscii host then some (.invalidIpv6 u.host)
  else if Uri.Idna.mark.isPrefixOf host then
    if Uri.Idna.isDecodable host then none else some (.invalidIdna u.host)
  else none

/-- An address whose host can stand in the head of a request. -/
def hosted (u : Uri) : Except UriError Uri :=
  match hostError? u with
  | some e => .error e
  | none => .ok u

/-- An address as a client sends it: one without scheme or host is cut down to path and query. -/
def requestAddress (u : Uri) : Except UriError Uri :=
  if u.isAbsolute then hosted u
  else
    let path := u.path.toList.dropWhile (· = '/')
    Uri.ofCheckedParts { path := '/' :: path, query? := u.query?.map String.toList }

/-- The port of an address, be it written or the usual one. -/
def portOf? (u : Uri) : Option Int := u.port?.or (Uri.usualPort? u.scheme.toList)

def isSameOrigin (u v : Uri) : Bool :=
  u.scheme = v.scheme && u.host = v.host && portOf? u = portOf? v

/-- Whether an address is another one on the same host, made secure. -/
def isUpgrade (u v : Uri) : Bool :=
  u.host = v.host && u.scheme = "http" && portOf? u = some 80 && v.scheme = "https"
    && portOf? v = some 443

namespace Request

/-- The method after a redirect of that status. -/
def redirectedMethod (q : Request) (status : Nat) : String :=
  if (status = 302 ∨ status = 303) ∧ q.method ≠ "HEAD" then "GET"
  else if status = 301 ∧ q.method = "POST" then "GET"
  else q.method

/-- The headers after a redirect to that address with that method. Credentials stay with their
origin, what describes a body goes with the body, and cookies are looked up anew. -/
def redirectedHeaders (q : Request) (target : Uri) (method : String) : Headers :=
  let trusted :=
    if isSameOrigin target q.address || isUpgrade q.address target then q.headers
    else q.headers.without "authorization"
  let bodiless :=
    if method ≠ q.method ∧ method = "GET" then
      (trusted.without "content-length").without "transfer-encoding"
    else trusted
  bodiless.without "cookie"

/-- The request that a redirect of that status to that address makes of another one. -/
def redirected (q : Request) (status : Nat) (target : Uri) : Request :=
  let method := q.redirectedMethod status
  ⟨method, target, q.redirectedHeaders target method⟩

@[simp] theorem address_redirected (q : Request) (status : Nat) (target : Uri) :
    (q.redirected status target).address = target := rfl

end Request

end ServiceDoc.Http
