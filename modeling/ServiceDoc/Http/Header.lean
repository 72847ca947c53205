/-!
# Headers

What goes with a request or a reply beside its body: names and their values. Letter case does not
matter in a name, and the values of a repeated one count together.
-/

namespace ServiceDoc.Http

abbrev Headers := List (String × String)

namespace Headers

/-- The value under a name in lower case; the values of a repeated one are joined. -/
def value? (hs : Headers) (name : String) : Option String :=
  match (hs.filter fun h => h.1.map Char.toLower = name).map Prod.snd with
  | [] => none
  | values => some (", ".intercalate values)

/-- The headers without those of one name, which is given in lower case. -/
def without (hs : Headers) (name : String) : Headers :=
  hs.filter fun h => h.1.map Char.toLower ≠ name

/-- Dropping the headers of one name leaves those of any other. -/
theorem value?_without {name other : String} (h : name ≠ other) (hs : Headers) :
    value? (hs.without other) name = hs.value? name := by
  have hfilter : (hs.without other).filter (fun e => decide (e.1.map Char.toLower = name)) =
      hs.filter fun e => decide (e.1.map Char.toLower = name) := by
    rw [without, List.filter_filter]
    apply List.filter_congr
    intro e _
    by_cases he : e.1.map Char.toLower = name
    · simp [he, h]
    · simp [he]
  rw [value?, value?, hfilter]

end Headers

end ServiceDoc.Http
