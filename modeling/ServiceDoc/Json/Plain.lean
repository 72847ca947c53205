import ServiceDoc.Json.Basic
import ServiceDoc.Text.Quoted
/-!
# Values in running text

How a value reads inside a page: a text stands for itself, anything else is written out, and texts
inside lists and objects are quoted.
-/

namespace ServiceDoc.Json

/-- Parts of a list or an object with separators between them. -/
def separated : List String → String := ", ".intercalate

mutual

def literal : Json → String
  | null => "None"
  | bool true => "True"
  | bool false => "False"
  | int n => toString n
  | str s => Text.quoted s
  | arr items => "[" ++ separated (literals items) ++ "]"
  | obj members => "\x7b" ++ separated (memberLiterals members) ++ "\x7d"

def literals : List Json → List String
  | [] => []
  | x :: xs => literal x :: literals xs

def memberLiterals : List (String × Json) → List String
  | [] => []
  | (name, x) :: ms => (Text.quoted name ++ ": " ++ literal x) :: memberLiterals ms

end

def plain : Json → String
  | str s => s
  | x => literal x

end ServiceDoc.Json
