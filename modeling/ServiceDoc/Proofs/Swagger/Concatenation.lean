import ServiceDoc.Proofs.OrderedMap.Update
import ServiceDoc.Proofs.Swagger.References
/-!
# Documents of two lists of sets

The sets of two lists, one behind the other, have the paths and the definitions of the first list
with those of the second one written over them (`paths_definitions_append`). The envelope is written
twice then, and the second time it is there already.
-/

namespace ServiceDoc.Swagger

open Csdl

theorem paths_append (xs ys : List EntitySet) :
    paths (xs ++ ys) = (paths xs).update (paths ys) := by
  rw [paths, List.flatMap_append, OrderedMap.ofList_append]
  rfl

theorem get?_definitions_errorDefinition (sets : List EntitySet) :
    (definitions sets).get? errorDefinition = some Schema.error :=
  (OrderedMap.get?_eq_some_iff _ _ _).2 (List.mem_of_mem_head? (head?_definitions sets))

theorem definitions_append (xs ys : List EntitySet) :
    definitions (xs ++ ys) = (definitions xs).update (definitions ys) := by
  rw [definitions, definitions, definitions, List.map_append, ← List.cons_append,
    OrderedMap.ofList, OrderedMap.insertAll_append, ← OrderedMap.insertAll_eq_update,
    OrderedMap.insertAll_cons]
  exact congrArg (OrderedMap.insertAll · _)
    (OrderedMap.insert_eq_self (get?_definitions_errorDefinition xs)).symm

/-- The paths of two lists of sets are those of the first list, updated with those of the second
one, and so are the definitions. A path or a definition of the first list keeps its place, new ones
follow in the order of the second list, and the second list has the last word on what stands
there. -/
theorem paths_definitions_append (xs ys : List EntitySet) :
    (paths (xs ++ ys) = (paths xs).update (paths ys) ∧
      (paths (xs ++ ys)).keys =
        (paths xs).keys ++ (paths ys).keys.filter (fun k => k ∉ (paths xs).keys) ∧
      ∀ k, (paths (xs ++ ys)).get? k = ((paths ys).get? k).or ((paths xs).get? k)) ∧
    definitions (xs ++ ys) = (definitions xs).update (definitions ys) ∧
      (definitions (xs ++ ys)).keys =
        (definitions xs).keys ++
          (definitions ys).keys.filter (fun k => k ∉ (definitions xs).keys) ∧
      ∀ k, (definitions (xs ++ ys)).get? k =
        ((definitions ys).get? k).or ((definitions xs).get? k) := by
  rw [paths_append, definitions_append]
  exact ⟨⟨rfl, OrderedMap.keys_update _ _, OrderedMap.get?_update _ _⟩,
    rfl, OrderedMap.keys_update _ _, OrderedMap.get?_update _ _⟩

end ServiceDoc.Swagger
