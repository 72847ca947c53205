/-!
# Switches

The switches of the command line with their spellings, and the texts that explain them.
-/

namespace ServiceDoc.CommandLine

inductive Switch where
  | help
  | host
  | basePath
  | output
  | noPage
  | verbose
  deriving DecidableEq, Repr

namespace Switch

def takesValue : Switch → Bool
  | host => true
  | basePath => true
  | output => true
  | _ => false

/-- All spellings, in the order in which they are listed. -/
def spellings : List (String × Switch) :=
  [("-h", help), ("--help", help), ("--host", host), ("--base-path", basePath), ("-o", output),
    ("--output", output), ("--no-ui", noPage), ("-v", verbose), ("--verbose", verbose)]

def ofSpelling? (s : String) : Option Switch := spellings.lookup s

/-- How messages call a switch: all its spellings. -/
def display (s : Switch) : String :=
  "/".intercalate ((spellings.filter fun e => e.2 = s).map Prod.fst)

end Switch

/-- How the program is called. -/
def usage : String :=
  "usage: odata_swagger [-h] [--host HOST] [--base-path BASE_PATH] [-o OUTPUT]\n"
    ++ "                     [--no-ui] [-v]\n"
    ++ "                     [source]\n"

def help : String :=
  usage
    ++ "\nGenerate a Swagger 2.0 document from OData service metadata\n\n"
    ++ "positional arguments:\n"
    ++ "  source                Path to a $metadata file or a service URL (env:\n"
    ++ "                        ODATA_METADATA)\n\n"
    ++ "options:\n"
    ++ "  -h, --help            show this help message and exit\n"
    ++ "  --host HOST           Value for the document's host field (env: ODATA_HOST)\n"
    ++ "  --base-path BASE_PATH\n"
    ++ "                        Value for the document's basePath field (env:\n"
    ++ "                        ODATA_BASE_PATH)\n"
    ++ "  -o OUTPUT, --output OUTPUT\n"
    ++ "                        Output directory (default: generated)\n"
    ++ "  --no-ui               Skip index.html\n"
    ++ "  -v, --verbose         Debug logging\n"

end ServiceDoc.CommandLine
