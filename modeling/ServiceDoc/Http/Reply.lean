import ServiceDoc.Http.Header
/-!
# Replies

What a server answers, with the meaning of its status and the headers that matter.
-/

namespace ServiceDoc.Http

/-- The phrase that goes with a status; an unknown one has none. -/
def reasonPhrase : Nat → String
  | 100 => "Continue"
  | 101 => "Switching Protocols"
  | 102 => "Processing"
  | 103 => "Early Hints"
  | 200 => "OK"
  | 201 => "Created"
  | 202 => "Accepted"
  | 203 => "Non-Authoritative Information"
  | 204 => "No Content"
  | 205 => "Reset Content"
  | 206 => "Partial Content"
  | 207 => "Multi-Status"
  | 208 => "Already Reported"
  | 226 => "IM Used"
  | 300 => "Multiple Choices"
  | 301 => "Moved Permanently"
  | 302 => "Found"
  | 303 => "See Other"
  | 304 => "Not Modified"
  | 305 => "Use Proxy"
  | 307 => "Temporary Redirect"
  | 308 => "Permanent Redirect"
  | 400 => "Bad Request"
  | 401 => "Unauthorized"
  | 402 => "Payment Required"
  | 403 => "Forbidden"
  | 404 => "Not Found"
  | 405 => "Method Not Allowed"
  | 406 => "Not Acceptable"
  | 407 => "Proxy Authentication Required"
  | 408 => "Request Timeout"
  | 409 => "Conflict"
  | 410 => "Gone"
  | 411 => "Length Required"
  | 412 => "Precondition Failed"
  | 413 => "Request Entity Too Large"
  | 414 => "Request-URI Too Long"
  | 415 => "Unsupported Media Type"
  | 416 => "Requested Range Not Satisfiable"
  | 417 => "Expectation Failed"
  | 418 => "I'm a teapot"
  | 421 => "Misdirected Request"
  | 422 => "Unprocessable Entity"
  | 423 => "Locked"
  | 424 => "Failed Dependency"
  | 425 => "Too Early"
  | 426 => "Upgrade Required"
  | 428 => "Precondition Required"
  | 429 => "Too Many Requests"
  | 431 => "Request Header Fields Too Large"
  | 451 => "Unavailable For Legal Reasons"
  | 500 => "Internal Server Error"
  | 501 => "Not Implemented"
  | 502 => "Bad Gateway"
  | 503 => "Service Unavailable"
  | 504 => "Gateway Timeout"
  | 505 => "HTTP Version Not Supported"
  | 506 => "Variant Also Negotiates"
  | 507 => "Insufficient Storage"
  | 508 => "Loop Detected"
  | 510 => "Not Extended"
  | 511 => "Network Authentication Required"
  | _ => ""

structure Reply where
  status : Nat := 200
  headers : Headers := []
  /-- The content, with any coding that the headers tell of undone. -/
  body : List UInt8 := []
  deriving DecidableEq, Repr

namespace Reply

def header? (r : Reply) (name : String) : Option String := r.headers.value? name

def isSuccess (r : Reply) : Bool := 200 ≤ r.status && r.status < 300

/-- Where a reply sends the client, if its status is one of the five that do. -/
def redirect? (r : Reply) : Option String :=
  if [301, 302, 303, 307, 308].contains r.status then r.header? "location" else none

/-- What a status that is no success means, by its first digit. -/
def failureKind (r : Reply) : String :=
  match r.status / 100 with
  | 1 => "Informational response"
  | 3 => "Redirect response"
  | 4 => "Client error"
  | 5 => "Server error"
  | _ => "Invalid status code"

/-- What there is to say of a reply that is no success to a request of that address. -/
def failureMessage (r : Reply) (address : String) : String :=
  r.failureKind ++ " '" ++ toString r.status ++ " " ++ reasonPhrase r.status ++ "' for url '"
    ++ address ++ "'\n"
    ++ (match r.redirect? with
      | none => ""
      | some location => "Redirect location: '" ++ location ++ "'\n")
    ++ "For more information check: https://developer.mozilla.org/en-US/docs/Web/HTTP/Status/"
    ++ toString r.status

end Reply

/-- What a request leads to. -/
inductive Response where
  | reply (r : Reply)
  /-- The request failed on its way, or its reply cannot be decoded, for a reason of that kind. -/
  | failure (kind message : String)
  deriving DecidableEq, Repr

/-- A network that answers by a list: the request of an index gets the response there, or the last
one. Without responses there is no network. -/
abbrev Network := List Response

def Network.respond (n : Network) (index : Nat) : Response :=
  match n[index]? with
  | some r => r
  | none => n.getLastD (.failure "ConnectError" "no network")

end ServiceDoc.Http
