import ServiceDoc.Json.Basic
import ServiceDoc.Proofs.OrderedMap.LastWrite
/-!
# Inside JSON values

Two ways of looking into a value: `at?` follows a path of member names, and `valuesAt` collects what
stands under one name at any depth. The members of an object that shows an ordered map have distinct
names, so a path through it reads the map.
-/

namespace ServiceDoc.Json

/-- The value behind a path of member names. -/
def at? : List String → Json → Option Json
  | [], j => some j
  | name :: path, .obj members => (member? name members).bind (at? path)
  | _ :: _, _ => none

mutual

/-- The values of the members of one name, at any depth. -/
def valuesAt (name : String) : Json → List Json
  | .arr items => valuesAtItems name items
  | .obj members => valuesAtMembers name members
  | _ => []

def valuesAtItems (name : String) : List Json → List Json
  | [] => []
  | j :: js => valuesAt name j ++ valuesAtItems name js

def valuesAtMembers (name : String) : List (String × Json) → List Json
  | [] => []
  | (k, v) :: rest =>
    (if k = name then [v] else []) ++ (valuesAt name v ++ valuesAtMembers name rest)

end

@[simp] theorem valuesAt_bool (name : String) (b : Bool) : (bool b).valuesAt name = [] := rfl

@[simp] theorem valuesAt_str (name s : String) : (str s).valuesAt name = [] := rfl

@[simp] theorem valuesAt_arr (name : String) (items : List Json) :
    (arr items).valuesAt name = items.flatMap (valuesAt name) := by
  rw [valuesAt]
  induction items with
  | nil => rfl
  | cons j js ih => rw [valuesAtItems, ih, List.flatMap_cons]

@[simp] theorem valuesAt_obj (name : String) (members : List (String × Json)) :
    (obj members).valuesAt name =
      members.flatMap fun e => (if e.1 = name then [e.2] else []) ++ e.2.valuesAt name := by
  rw [valuesAt]
  induction members with
  | nil => rfl
  | cons e rest ih =>
      obtain ⟨k, v⟩ := e
      rw [valuesAtMembers, ih, List.flatMap_cons, List.append_assoc]

@[simp] theorem at?_nil (j : Json) : j.at? [] = some j := rfl

@[simp] theorem at?_cons (name : String) (path : List String) (members : List (String × Json)) :
    (obj members).at? (name :: path) = (member? name members).bind (at? path) := rfl

@[simp] theorem bind_at?_nil (j? : Option Json) : j?.bind (at? []) = j? := by
  cases j? <;> rfl

@[simp] theorem member?_nil (name : String) : member? name [] = none := rfl

@[simp] theorem member?_cons (name k : String) (v : Json) (rest : List (String × Json)) :
    member? name ((k, v) :: rest) =
      (member? name rest).or (if name = k then some v else none) := by
  rw [member?, member?, List.reverse_cons, List.lookup_append, lookup_cons_eq_ite, List.lookup_nil]

@[simp] theorem member?_append (name : String) (xs ys : List (String × Json)) :
    member? name (xs ++ ys) = (member? name ys).or (member? name xs) := by
  rw [member?, member?, member?, List.reverse_append, List.lookup_append]

/-- An object that shows an ordered map has as its members what the map holds. -/
theorem member?_entries {α : Type} (m : OrderedMap α) (f : α → Json) (name : String) :
    member? name (m.entries.map fun e => (e.1, f e.2)) = (m.get? name).map f := by
  have hnames : (m.entries.map fun e => (e.1, f e.2)).map Prod.fst = m.entries.map Prod.fst := by
    rw [List.map_map]
    rfl
  rw [member?, lookup_reverse name (by rw [hnames]; exact m.keys_nodup), OrderedMap.get?]
  induction m.entries with
  | nil => rfl
  | cons e rest ih =>
      rw [List.map_cons, lookup_cons_eq_ite, lookup_cons_eq_ite, ih]
      by_cases h : name = e.1 <;> simp [h]

end ServiceDoc.Json
