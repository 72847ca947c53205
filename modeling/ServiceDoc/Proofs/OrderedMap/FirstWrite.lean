import ServiceDoc.Proofs.OrderedMap.Update
/-!
# The first write to a key

Where the keys of an ordered map stand after a list of writes: in the order in which each of them
was written to first (`pairwise_idxOf_keys_ofList`). One more write either finds its key, and then
no place changes, or puts the key behind all the others, which were written to before it.
-/

namespace ServiceDoc.OrderedMap

variable {α : Type}

/-- Names in the order of their first occurrences in a list stay so when the list grows. -/
theorem pairwise_idxOf_append {names keys : List String} (hmem : ∀ k ∈ keys, k ∈ names)
    (h : keys.Pairwise fun a b => names.idxOf a < names.idxOf b) (more : List String) :
    keys.Pairwise fun a b => (names ++ more).idxOf a < (names ++ more).idxOf b := by
  refine h.imp_of_mem fun {a b} ha hb hlt => ?_
  rwa [List.idxOf_append_of_mem (hmem a ha), List.idxOf_append_of_mem (hmem b hb)]

/-- One more write keeps the keys in the order of their first writes. -/
theorem pairwise_idxOf_keys_insert {m : OrderedMap α} {names : List String}
    (hmem : ∀ k, k ∈ m.keys ↔ k ∈ names)
    (h : m.keys.Pairwise fun a b => names.idxOf a < names.idxOf b) (key : String) (value : α) :
    (m.insert key value).keys.Pairwise fun a b =>
      (names ++ [key]).idxOf a < (names ++ [key]).idxOf b := by
  have hold := pairwise_idxOf_append (fun k => (hmem k).1) h [key]
  rw [keys_insert]
  split
  · exact hold
  · next hnew =>
    refine List.pairwise_append.2 ⟨hold, List.pairwise_singleton _ _, ?_⟩
    intro a ha b hb
    rw [List.mem_singleton] at hb
    subst hb
    have ha' : a ∈ names := (hmem a).1 ha
    have hb' : b ∉ names := fun hmem' => hnew ((hmem b).2 hmem')
    rw [List.idxOf_append_of_mem ha', List.idxOf_append_of_notMem hb']
    exact Nat.lt_add_right _ (List.idxOf_lt_length_of_mem ha')

/-- The keys of a map stand in the order of the first writes to them. -/
theorem pairwise_idxOf_keys_ofList (writes : List (String × α)) :
    (ofList writes).keys.Pairwise fun a b =>
      (writes.map Prod.fst).idxOf a < (writes.map Prod.fst).idxOf b := by
  induction writes using List.reverseRecOn with
  | nil => exact List.Pairwise.nil
  | append_singleton writes e ih =>
      rw [ofList_append_singleton, List.map_append, List.map_singleton]
      exact pairwise_idxOf_keys_insert (mem_keys_ofList writes) ih e.1 e.2

end ServiceDoc.OrderedMap
