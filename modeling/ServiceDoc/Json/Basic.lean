/-!
# JSON values

The values that a document is made of. The members of an object are a list of pairs, because their
order is shown; numbers are integers, as nothing else is ever written.
-/

namespace ServiceDoc

/-- A JSON value with integers of any size and objects that keep the order of their members. -/
inductive Json where
  | null
  | bool (value : Bool)
  | int (value : Int)
  | str (value : String)
  | arr (items : List Json)
  | obj (members : List (String × Json))
  deriving Inhabited, Repr

namespace Json

/-- The last member of that name, as a reader that keeps one value per name sees it. -/
def member? (name : String) (members : List (String × Json)) : Option Json :=
  members.reverse.lookup name

end Json

end ServiceDoc
