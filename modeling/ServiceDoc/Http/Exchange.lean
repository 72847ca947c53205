import ServiceDoc.Http.Reply
import ServiceDoc.Http.Request
import ServiceDoc.Log
/-!
# Exchanges

Asking for the resource at an address, with all that happens on the way: the requests that are sent,
the records that are logged, and the reply that counts in the end. A client may follow redirects; it
works out where a redirect leads in any case, so a bad one is a failure also where it is not
followed.
-/

namespace ServiceDoc.Http

/-- Why an exchange yields no reply. -/
inductive ExchangeError where
  /-- The request failed on its way, for a reason of that kind. -/
  | transport (kind message : String)
  | tooManyRedirects
  /-- A redirect leads to a text that is no address. -/
  | badLocation (e : UriError)
  /-- A redirect leads to an address that cannot be completed. -/
  | badAddress (e : UriError)
  /-- The address of a request lacks a scheme, so its reply cannot be attributed. -/
  | unknownScheme (address : String)
  deriving DecidableEq, Repr

def ExchangeError.message : ExchangeError → String
  | transport _ message => message
  | tooManyRedirects => "Exceeded maximum allowed redirects."
  | badLocation e => "Invalid URL in location header: " ++ e.message ++ "."
  | badAddress e => e.message
  | unknownScheme address => "unknown url type: " ++ Text.quoted address

/-- What happened in an exchange: the requests in order, the log, and the reply to the last request,
which comes with its address, or the reason why there is none. -/
structure Exchange where
  sent : List Request
  log : List LogRecord
  outcome : Except ExchangeError (Uri × Reply)

/-- An exchange with a request that comes before its others. -/
def Exchange.after (request : Request) (log : List LogRecord) (e : Exchange) : Exchange :=
  ⟨request :: e.sent, log ++ e.log, e.outcome⟩

def replyRecord (request : Request) (r : Reply) : LogRecord :=
  ⟨.info, "httpx", "HTTP Request: " ++ request.method ++ " " ++ request.address.toText
    ++ " \x22HTTP/1.1 " ++ toString r.status ++ " " ++ reasonPhrase r.status ++ "\x22"⟩

/-- The address that a location means. One without a host is completed by the request it answers,
and the fragment of the request stays unless the location has one. -/
def locationTarget (request : Uri) (location : String) : Except ExchangeError Uri :=
  match Uri.parse location with
  | .error e => .error (.badLocation e)
  | .ok u =>
    let hosted :=
      if !u.scheme.isEmpty && u.host.isEmpty then u.withHost request.host else .ok u
    match hosted with
    | .error e => .error (.badAddress e)
    | .ok u =>
      match if u.isAbsolute then .ok u else request.join u with
      | .error e => .error (.badAddress e)
      | .ok u =>
        let fragment := request.decodedFragment
        if !fragment.isEmpty && u.decodedFragment.isEmpty then
          match u.withFragment fragment with
          | .error e => .error (.badAddress e)
          | .ok u => .ok u
        else .ok u

/-- The address that a redirect leads to, which the next request asks for. -/
def redirectTarget (request : Uri) (location : String) : Except ExchangeError Uri :=
  (locationTarget request location).bind fun target => (hosted target).mapError .badAddress

def maxRedirects : Nat := 20

/-- What a response means to the request that it answers. -/
inductive Answer where
  /-- It ends the exchange. -/
  | final (outcome : Except ExchangeError (Uri × Reply))
  /-- It is a reply that redirects to another address, and the client follows. -/
  | redirect (r : Reply) (target : Uri)

def answer (follows : Bool) (request : Request) : Response → Answer
  | .failure kind message => .final (.error (.transport kind message))
  | .reply r =>
    if request.address.scheme.isEmpty then
      .final (.error (.unknownScheme request.address.toText))
    else
      match r.redirect? with
      | none => .final (.ok (request.address, r))
      | some location =>
        match redirectTarget request.address location with
        | .error e => .final (.error e)
        | .ok target => if follows then .redirect r target else .final (.ok (request.address, r))

/-- What is logged of a response: a reply, if it can be attributed. -/
def responseLog (request : Request) : Response → List LogRecord
  | .failure _ _ => []
  | .reply r => if request.address.scheme.isEmpty then [] else [replyRecord request r]

/-- Sends a request and the ones that redirects make of it. `left` redirects may still be followed,
and `count` requests were sent before. -/
def exchange (network : Network) (follows : Bool) (left count : Nat) (request : Request) :
    Exchange :=
  let response := network.respond count
  let log := responseLog request response
  match answer follows request response with
  | .final outcome => ⟨[request], log, outcome⟩
  | .redirect r target =>
    match left with
    | 0 => ⟨[request], log, .error .tooManyRedirects⟩
    | left + 1 =>
      (exchange network follows left (count + 1) (request.redirected r.status target)).after
        request log

end ServiceDoc.Http
