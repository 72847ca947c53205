import Mathlib.Data.List.Induction
import Mathlib.Data.List.Nodup
import ServiceDoc.OrderedMap
/-!
# The last write to a key

What an ordered map holds after a list of writes: the keys that were written to, and at each of them
the value of the last write. A list of writes is taken apart at its end, because the last write is
the one that the map has seen most recently, so both facts follow from what one more write changes.
-/

namespace ServiceDoc

theorem lookup_cons_eq_ite {κ α : Type} [BEq κ] [LawfulBEq κ] [DecidableEq κ] (key k : κ)
    (value : α) (rest : List (κ × α)) :
    ((key, value) :: rest).lookup k = if k = key then some value else rest.lookup k := by
  rw [List.lookup_cons]
  by_cases h : k = key
  · rw [beq_iff_eq.2 h, if_pos h]
  · rw [beq_eq_false_iff_ne.2 h, if_neg h]

theorem lookup_put {α : Type} (key k : String) (value : α) (entries : List (String × α)) :
    (put key value entries).lookup k = if k = key then some value else entries.lookup k := by
  induction entries with
  | nil => exact lookup_cons_eq_ite key k value []
  | cons e rest ih =>
      obtain ⟨k', v⟩ := e
      by_cases hk : k' = key
      · subst hk
        simp only [put, lookup_cons_eq_ite, if_true]
        split <;> rfl
      · simp only [put, lookup_cons_eq_ite, if_neg hk, ih]
        by_cases h : k = k'
        · subst h
          rw [if_pos rfl, if_pos rfl, if_neg hk]
        · rw [if_neg h, if_neg h]

theorem head?_put_cons {α : Type} (key : String) (value : α) (e : String × α)
    (rest : List (String × α)) (h : key ≠ e.1) : (put key value (e :: rest)).head? = some e := by
  obtain ⟨k, v⟩ := e
  simp [put, Ne.symm h]

theorem put_of_notMem {α : Type} {key : String} (value : α) {entries : List (String × α)}
    (h : key ∉ entries.map Prod.fst) : put key value entries = entries ++ [(key, value)] := by
  induction entries with
  | nil => rfl
  | cons e rest ih =>
      obtain ⟨k, v⟩ := e
      rw [List.map_cons, List.mem_cons, not_or] at h
      rw [put, if_neg (Ne.symm h.1), ih h.2, List.cons_append]

/-- Among entries without two equal keys, the first entry of a key is its only one. -/
theorem lookup_eq_some_iff_mem {α : Type} {entries : List (String × α)} {key : String} {value : α}
    (h : (entries.map Prod.fst).Nodup) :
    entries.lookup key = some value ↔ (key, value) ∈ entries := by
  induction entries with
  | nil => simp
  | cons e rest ih =>
      obtain ⟨k, v⟩ := e
      rw [List.map_cons, List.nodup_cons] at h
      rw [lookup_cons_eq_ite, List.mem_cons]
      by_cases hk : key = k
      · subst hk
        have hrest : (key, value) ∉ rest := by
          intro hm
          exact h.1 (List.mem_map.2 ⟨_, hm, rfl⟩)
        simp [hrest, eq_comm]
      · simp [hk, ih h.2]

/-- Distinct keys have one entry each, so it does not matter from which end it is searched. -/
theorem lookup_reverse {α : Type} {entries : List (String × α)} (key : String)
    (h : (entries.map Prod.fst).Nodup) : entries.reverse.lookup key = entries.lookup key := by
  have hr : (entries.reverse.map Prod.fst).Nodup := by
    rw [List.map_reverse]
    exact List.nodup_reverse.2 h
  apply Option.ext
  intro value
  rw [lookup_eq_some_iff_mem hr, lookup_eq_some_iff_mem h, List.mem_reverse]

namespace OrderedMap

variable {α : Type}

theorem get?_insert (m : OrderedMap α) (key k : String) (value : α) :
    (m.insert key value).get? k = if k = key then some value else m.get? k :=
  lookup_put key k value m.entries

theorem get?_eq_some_iff (m : OrderedMap α) (key : String) (value : α) :
    m.get? key = some value ↔ (key, value) ∈ m.entries :=
  lookup_eq_some_iff_mem m.keys_nodup

theorem mem_keys_insert (m : OrderedMap α) (key k : String) (value : α) :
    k ∈ (m.insert key value).keys ↔ k = key ∨ k ∈ m.keys := by
  unfold keys
  rw [entries_insert, keys_put]
  split
  · next h =>
    constructor
    · exact Or.inr
    · rintro (rfl | hk)
      · exact h
      · exact hk
  · rw [List.mem_append, List.mem_singleton, or_comm]

theorem ofList_append_singleton (writes : List (String × α)) (e : String × α) :
    ofList (writes ++ [e]) = (ofList writes).insert e.1 e.2 := by
  unfold ofList
  rw [insertAll_append, insertAll_cons, insertAll_nil]

/-- A map holds at each key the value of the last write to it. -/
theorem get?_ofList (writes : List (String × α)) (key : String) :
    (ofList writes).get? key = writes.reverse.lookup key := by
  induction writes using List.reverseRecOn with
  | nil => rfl
  | append_singleton writes e ih =>
      obtain ⟨k, v⟩ := e
      rw [ofList_append_singleton, get?_insert, ih, List.reverse_append, List.reverse_singleton,
        List.singleton_append, lookup_cons_eq_ite]

theorem mem_of_get?_ofList {writes : List (String × α)} {key : String} {value : α}
    (h : (ofList writes).get? key = some value) : (key, value) ∈ writes := by
  rw [get?_ofList, List.lookup_eq_some_iff] at h
  obtain ⟨later, earlier, h, -⟩ := h
  rw [← List.mem_reverse, h]
  exact List.mem_append_right later List.mem_cons_self

theorem lookup_map_const (names : List String) (value : α) (key : String) :
    (names.map fun name => (name, value)).lookup key =
      if key ∈ names then some value else none := by
  induction names with
  | nil => rfl
  | cons name rest ih =>
      rw [List.map_cons, lookup_cons_eq_ite, ih]
      by_cases h : key = name <;> simp [h]

/-- Where each of a list of things is written under all its names, a key leads to the last thing
that has it as a name. -/
theorem get?_ofList_flatMap {β : Type} (names : β → List String) (value : β → α) (xs : List β)
    (key : String) :
    (ofList (xs.flatMap fun x => (names x).map fun name => (name, value x))).get? key =
      ((xs.filter fun x => key ∈ names x).getLast?).map value := by
  rw [get?_ofList]
  induction xs using List.reverseRecOn with
  | nil => rfl
  | append_singleton xs x ih =>
      rw [List.flatMap_append, List.flatMap_singleton, List.reverse_append, List.lookup_append, ih,
        ← List.map_reverse, lookup_map_const, List.filter_append, List.getLast?_append]
      by_cases h : key ∈ names x <;> simp [h]

theorem get?_ofList_map {β : Type} (name : β → String) (value : β → α) (xs : List β)
    (key : String) :
    (ofList (xs.map fun x => (name x, value x))).get? key =
      ((xs.filter fun x => name x = key).getLast?).map value := by
  have h := get?_ofList_flatMap (fun x => [name x]) value xs key
  simp only [List.map_cons, List.map_nil, List.mem_singleton, eq_comm (a := key)] at h
  rw [← h, List.map_eq_flatMap]

/-- The keys of a map are those that were written to. -/
theorem mem_keys_ofList (writes : List (String × α)) (key : String) :
    key ∈ (ofList writes).keys ↔ key ∈ writes.map Prod.fst := by
  induction writes using List.reverseRecOn with
  | nil => simp [ofList, keys]
  | append_singleton writes e ih =>
      rw [ofList_append_singleton, mem_keys_insert, ih, List.map_append, List.mem_append,
        List.map_singleton, List.mem_singleton, or_comm]

/-- Where no key is written with two values, a map holds just what was written. -/
theorem get?_ofList_eq_some_iff {writes : List (String × α)}
    (h : ∀ e ∈ writes, ∀ e' ∈ writes, e.1 = e'.1 → e.2 = e'.2) {key : String} {value : α} :
    (ofList writes).get? key = some value ↔ (key, value) ∈ writes := by
  constructor
  · exact mem_of_get?_ofList
  · intro hmem
    have hkey : key ∈ (ofList writes).keys := by
      rw [mem_keys_ofList]
      exact List.mem_map.2 ⟨_, hmem, rfl⟩
    obtain ⟨⟨k, v⟩, he, rfl⟩ := List.mem_map.1 hkey
    have hget : (ofList writes).get? k = some v := (get?_eq_some_iff _ _ _).2 he
    have hvalue : v = value := h (k, v) (mem_of_get?_ofList hget) (k, value) hmem rfl
    rw [hget, hvalue]

/-- Then the order of the writes does not matter either. -/
theorem get?_ofList_of_perm {writes writes' : List (String × α)} (hperm : writes.Perm writes')
    (h : ∀ e ∈ writes, ∀ e' ∈ writes, e.1 = e'.1 → e.2 = e'.2) (key : String) :
    (ofList writes).get? key = (ofList writes').get? key := by
  have h' : ∀ e ∈ writes', ∀ e' ∈ writes', e.1 = e'.1 → e.2 = e'.2 := by
    intro e he e' he'
    exact h e (hperm.mem_iff.2 he) e' (hperm.mem_iff.2 he')
  apply Option.ext
  intro value
  rw [get?_ofList_eq_some_iff h, get?_ofList_eq_some_iff h', hperm.mem_iff]

/-- Writes to distinct keys are the entries of the map, as none of them finds its key taken. -/
theorem entries_ofList_of_nodup {writes : List (String × α)}
    (h : (writes.map Prod.fst).Nodup) : (ofList writes).entries = writes := by
  induction writes using List.reverseRecOn with
  | nil => rfl
  | append_singleton writes e ih =>
      rw [List.map_append, List.map_singleton, ← List.concat_eq_append, List.nodup_concat] at h
      rw [ofList_append_singleton, entries_insert, ih h.2, put_of_notMem e.2 h.1]

/-- A later write to another key leaves the first entry where it is. -/
theorem head?_entries_insertAll (m : OrderedMap α) (writes : List (String × α)) (e : String × α)
    (hm : m.entries.head? = some e) (h : ∀ w ∈ writes, w.1 ≠ e.1) :
    (m.insertAll writes).entries.head? = some e := by
  induction writes generalizing m with
  | nil => exact hm
  | cons w rest ih =>
      rw [insertAll_cons]
      apply ih
      · obtain ⟨first, tail, hm'⟩ : ∃ first tail, m.entries = first :: tail := by
          cases hc : m.entries with
          | nil => simp [hc] at hm
          | cons first tail => exact ⟨first, tail, rfl⟩
        have hfirst : first = e := by simpa [hm'] using hm
        rw [entries_insert, hm', hfirst]
        exact head?_put_cons _ _ _ _ (h w List.mem_cons_self)
      · intro w' hw'
        exact h w' (List.mem_cons_of_mem _ hw')

end OrderedMap

end ServiceDoc
