import ServiceDoc.FileTree.Basic
import ServiceDoc.Http.Exchange
import ServiceDoc.Uri.Metadata
/-!
# Loading

The bytes of a metadata document, from a service or from a file. A source is taken for the address
of a service by how it begins, letter case included; anything else is a path.
-/

namespace ServiceDoc.Source

/-- Why a source cannot be loaded. -/
inductive LoadError where
  /-- The source is no address, or an address that cannot be extended. -/
  | address (e : UriError)
  | exchange (e : Http.ExchangeError)
  /-- A reply that is no success, to a request of that address. -/
  | status (address : Uri) (r : Http.Reply)
  | file (source : String) (path : Path) (f : FileFault)
  deriving DecidableEq, Repr

def LoadError.message : LoadError → String
  | address e => e.message
  | exchange e => e.message
  | status u r => r.failureMessage u.toText
  | file source path f =>
    if f = .embeddedNul then f.message path
    else "Cannot read metadata from " ++ source ++ ": " ++ f.message path

/-- What happened on loading: the requests in order, the log, and the bytes or the reason why there
are none. -/
structure Loading where
  sent : List Http.Request
  log : List LogRecord
  outcome : Except LoadError (List UInt8)

/-- The addresses of the requests. -/
def Loading.requests (l : Loading) : List Uri := l.sent.map Http.Request.address

def isAddress (source : String) : Bool :=
  "http://".toList.isPrefixOf source.toList || "https://".toList.isPrefixOf source.toList

def record (message : String) : LogRecord := ⟨.debug, "odata_swagger.loader", message⟩

/-- The bytes in the reply of an exchange, if it is a success. -/
def body (e : Http.Exchange) : Except LoadError (List UInt8) :=
  match e.outcome with
  | .error x => .error (.exchange x)
  | .ok (address, r) => if r.isSuccess then .ok r.body else .error (.status address r)

/-- The request for the metadata at an address. -/
def metadataRequest (address : Uri) : Http.Request :=
  ⟨"GET", address, [("Accept", "application/xml")]⟩

def loadService (network : Http.Network) (follows : Bool) (service : String) : Loading :=
  match Uri.metadataText service with
  | .error e => ⟨[], [], .error (.address e)⟩
  | .ok address =>
    let fetching := record ("Fetching metadata from " ++ address)
    match (Uri.parse address).bind Http.requestAddress with
    | .error e => ⟨[], [fetching], .error (.address e)⟩
    | .ok u =>
      let e := Http.exchange network follows Http.maxRedirects 0 (metadataRequest u)
      ⟨e.sent, fetching :: e.log, body e⟩

def loadFile (files : FileTree) (source : String) : Loading :=
  let path := Path.ofText source
  ⟨[], [record ("Reading metadata from " ++ source)],
    (files.read path).mapError (.file source path)⟩

def load (files : FileTree) (network : Http.Network) (follows : Bool) (source : String) : Loading :=
  if isAddress source then loadService network follows source else loadFile files source

end ServiceDoc.Source
