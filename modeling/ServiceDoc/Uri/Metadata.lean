import ServiceDoc.Uri.Basic
/-!
# Addresses of metadata

A service publishes its metadata under one fixed segment below its root. An address that ends with
the name of that segment already is taken as it is.
-/

namespace ServiceDoc.Uri

/-- The segment under which a service publishes its metadata. -/
def metadataSegment : List Char := "$metadata".toList

def trimSlashes (path : List Char) : List Char :=
  (path.reverse.dropWhile (· = '/')).reverse

/-- The address of the metadata of the service at an address. -/
def metadata (service : Uri) : Except UriError Uri :=
  let path := trimSlashes service.decodedPath
  if metadataSegment.isSuffixOf path then .ok service
  else service.withPath (path ++ '/' :: metadataSegment)

/-- The text of the address of the metadata of the service at a textual address. -/
def metadataText (service : String) : Except UriError String :=
  match parse service with
  | .error e => .error e
  | .ok u => (metadata u).map toText

end ServiceDoc.Uri
