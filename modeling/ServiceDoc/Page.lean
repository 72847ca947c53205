import ServiceDoc.Json.Plain
/-!
# The page

The page that shows a document in a browser. It names the document's title and the file that holds
the document, both with the characters escaped that mean something in markup.
-/

namespace ServiceDoc.Page

def escapeChar (c : Char) : List Char :=
  if c = '&' then "&amp;".toList
  else if c = '<' then "&lt;".toList
  else if c = '>' then "&gt;".toList
  else if c = '\x27' then "&#39;".toList
  else if c = '\x22' then "&#34;".toList
  else [c]

def escape (s : String) : String := String.ofList (s.toList.flatMap escapeChar)

/-- Lines, each with its end. -/
def lines (ls : List String) : String := String.join (ls.map (· ++ "\n"))

def beforeTitle : String :=
  lines
    ["<!DOCTYPE html>",
     "<html lang=\"en\">",
     "<head>",
     "  <meta charset=\"utf-8\">"]
    ++ "  <title>"

def beforeFile : String :=
  lines
    ["</title>",
     "  <link rel=\"stylesheet\" href=\"https://unpkg.com/swagger-ui-dist@5/swagger-ui.css\">",
     "</head>",
     "<body>",
     "  <div id=\"swagger-ui\"></div>",
     "  <script src=\"https://unpkg.com/swagger-ui-dist@5/swagger-ui-bundle.js\"></script>",
     "  <script>",
     "    window.onload = function () \x7b",
     "      window.ui = SwaggerUIBundle(\x7b"]
    ++ "        url: \""

def afterFile : String :=
  lines
    ["\",",
     "        dom_id: \"#swagger-ui\",",
     "      \x7d);",
     "    \x7d;",
     "  </script>",
     "</body>",
     "</html>"]

def render (title file : String) : String :=
  beforeTitle ++ escape title ++ beforeFile ++ escape file ++ afterFile

def kindName : Json → String
  | .null => "NoneType"
  | .bool _ => "bool"
  | .int _ => "int"
  | .str _ => "str"
  | .arr _ => "list"
  | .obj _ => "dict"

/-- The title that a document gives itself, or a general one; an error names the kind of a value
that should have had members. -/
def title (document : Json) : Except String String :=
  match document with
  | .obj members =>
    match (members.lookup "info").getD (.obj []) with
    | .obj info => .ok ((info.lookup "title").getD (.str "API")).plain
    | x => .error (kindName x)
  | x => .error (kindName x)

end ServiceDoc.Page
