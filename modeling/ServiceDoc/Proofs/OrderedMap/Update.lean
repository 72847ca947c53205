import ServiceDoc.Proofs.OrderedMap.LastWrite
/-!
# One map over another

What it takes for two ordered maps to be equal, and what a map is after another one was written over
it: its keys stay in their places, new ones come behind them in the order of the other map, and the
other map has the last word on the values. It makes no difference whether the writes are made one by
one or gathered in a map of their own first (`insertAll_eq_update`), so a list of writes can be
taken apart anywhere (`ofList_append`).
-/

namespace ServiceDoc.OrderedMap

variable {α : Type}

theorem entries_eq_filterMap (m : OrderedMap α) :
    m.entries = m.keys.filterMap fun k => (m.get? k).map fun v => (k, v) := by
  rw [keys, List.filterMap_map]
  symm
  conv_rhs => rw [← List.filterMap_some (l := m.entries)]
  refine List.filterMap_congr fun e he => ?_
  have hget : m.get? e.1 = some e.2 := (get?_eq_some_iff m e.1 e.2).2 he
  rw [Function.comp_apply, hget]
  rfl

/-- Two maps are equal if they have the same keys in the same places and the same values at them. -/
theorem eq_of_keys_of_get? {m n : OrderedMap α} (hkeys : m.keys = n.keys)
    (hget : ∀ k, m.get? k = n.get? k) : m = n := by
  apply OrderedMap.ext
  rw [entries_eq_filterMap m, entries_eq_filterMap n, hkeys]
  simp only [hget]

theorem keys_insert (m : OrderedMap α) (key : String) (value : α) :
    (m.insert key value).keys = if key ∈ m.keys then m.keys else m.keys ++ [key] :=
  keys_put key value m.entries

/-- Writing what is there already changes nothing. -/
theorem insert_eq_self {m : OrderedMap α} {key : String} {value : α}
    (h : m.get? key = some value) : m.insert key value = m := by
  have hkey : key ∈ m.keys :=
    List.mem_map.2 ⟨(key, value), (get?_eq_some_iff m key value).1 h, rfl⟩
  refine eq_of_keys_of_get? ?_ fun k => ?_
  · rw [keys_insert, if_pos hkey]
  · rw [get?_insert]
    split
    · next hk => rw [hk, h]
    · rfl

/-! ## Many writes -/

theorem insertAll_append_singleton (m : OrderedMap α) (writes : List (String × α))
    (e : String × α) : m.insertAll (writes ++ [e]) = (m.insertAll writes).insert e.1 e.2 := by
  rw [insertAll_append, insertAll_cons, insertAll_nil]

theorem keys_insertAll (m : OrderedMap α) (writes : List (String × α)) :
    (m.insertAll writes).keys =
      m.keys ++ (ofList writes).keys.filter fun k => k ∉ m.keys := by
  induction writes using List.reverseRecOn with
  | nil => simp [ofList, keys]
  | append_singleton writes e ih =>
      rw [insertAll_append_singleton, ofList_append_singleton, keys_insert, keys_insert, ih]
      by_cases hold : e.1 ∈ m.keys <;> by_cases hnew : e.1 ∈ (ofList writes).keys <;>
        simp [hold, hnew, List.filter_append]

theorem get?_insertAll (m : OrderedMap α) (writes : List (String × α)) (k : String) :
    (m.insertAll writes).get? k = ((ofList writes).get? k).or (m.get? k) := by
  induction writes using List.reverseRecOn with
  | nil => rfl
  | append_singleton writes e ih =>
      rw [insertAll_append_singleton, ofList_append_singleton, get?_insert, get?_insert, ih]
      split <;> rfl

/-! ## Updates -/

theorem ofList_entries (m : OrderedMap α) : ofList m.entries = m :=
  OrderedMap.ext (entries_ofList_of_nodup m.keys_nodup)

/-- The keys of the first map stay where they are, and new ones come behind them in their order. -/
theorem keys_update (m n : OrderedMap α) :
    (m.update n).keys = m.keys ++ n.keys.filter fun k => k ∉ m.keys := by
  rw [update, keys_insertAll, ofList_entries]

/-- The second map has the last word on a value. -/
theorem get?_update (m n : OrderedMap α) (k : String) :
    (m.update n).get? k = (n.get? k).or (m.get? k) := by
  rw [update, get?_insertAll, ofList_entries]

/-- Writes may be gathered in a map of their own before they are made. -/
theorem insertAll_eq_update (m : OrderedMap α) (writes : List (String × α)) :
    m.insertAll writes = m.update (ofList writes) := by
  refine eq_of_keys_of_get? ?_ fun k => ?_
  · rw [keys_insertAll, keys_update]
  · rw [get?_insertAll, get?_update]

theorem ofList_append (xs ys : List (String × α)) :
    ofList (xs ++ ys) = (ofList xs).update (ofList ys) := by
  rw [← insertAll_eq_update, ofList, insertAll_append]
  rfl

end ServiceDoc.OrderedMap
