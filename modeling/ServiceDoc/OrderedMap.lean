/-!
# Ordered maps

A map from texts that remembers the order in which its keys first came in. Writing to a key that
is already there keeps its place and changes its value, so the entries are a list without two equal
keys: that is a field of the type, and every operation keeps it.

Each operation is defined on the raw list of entries first (`put`), because a list is what the other
modules recurse on; the map only adds the proof.
-/

namespace ServiceDoc

/-- Write a value to a key: in the place of the entry with that key, or else at the end. -/
def put {α : Type} (key : String) (value : α) : List (String × α) → List (String × α)
  | [] => [(key, value)]
  | (k, v) :: rest => if k = key then (key, value) :: rest else (k, v) :: put key value rest

/-- The keys after a write: the old ones, and the new key last if it was not among them. -/
theorem keys_put {α : Type} (key : String) (value : α) (entries : List (String × α)) :
    (put key value entries).map Prod.fst =
      if key ∈ entries.map Prod.fst then entries.map Prod.fst
      else entries.map Prod.fst ++ [key] := by
  induction entries with
  | nil => simp [put]
  | cons e rest ih =>
    obtain ⟨k, v⟩ := e
    by_cases h : k = key
    · simp [put, h]
    · have h' : ¬ key = k := fun e => h e.symm
      by_cases hm : key ∈ rest.map Prod.fst
      · simp only [put, h, if_false, List.map_cons, ih, hm, if_true, List.mem_cons, or_true]
      · simp only [put, h, if_false, List.map_cons, ih, hm, List.mem_cons, h', or_false,
          List.cons_append]

theorem nodup_keys_put {α : Type} (key : String) (value : α) (entries : List (String × α))
    (h : (entries.map Prod.fst).Nodup) : ((put key value entries).map Prod.fst).Nodup := by
  rw [keys_put]
  split
  · exact h
  · next hm =>
    rw [List.nodup_append]
    refine ⟨h, by simp, ?_⟩
    intro a ha b hb
    rw [List.mem_singleton] at hb
    exact fun hab => hm (hb ▸ hab ▸ ha)

/-- A map from texts in the order of the first write to each key. -/
structure OrderedMap (α : Type) where
  /-- The entries, in that order. -/
  entries : List (String × α)
  /-- No key stands twice. -/
  keys_nodup : (entries.map Prod.fst).Nodup

namespace OrderedMap

variable {α : Type}

def empty : OrderedMap α := ⟨[], by simp⟩

/-- The keys, in the order of their first write. -/
def keys (m : OrderedMap α) : List String := m.entries.map Prod.fst

/-- How many keys there are. -/
def size (m : OrderedMap α) : Nat := m.entries.length

def get? (m : OrderedMap α) (key : String) : Option α := m.entries.lookup key

def insert (m : OrderedMap α) (key : String) (value : α) : OrderedMap α :=
  ⟨put key value m.entries, nodup_keys_put key value m.entries m.keys_nodup⟩

def insertAll (m : OrderedMap α) (entries : List (String × α)) : OrderedMap α :=
  entries.foldl (fun acc e => acc.insert e.1 e.2) m

/-- Write the entries of a second map over a first one, in the second one's order. -/
def update (m n : OrderedMap α) : OrderedMap α := m.insertAll n.entries

def ofList (entries : List (String × α)) : OrderedMap α := empty.insertAll entries

@[ext] theorem ext {m n : OrderedMap α} (h : m.entries = n.entries) : m = n := by
  cases m; cases n; cases h; rfl

@[simp] theorem entries_empty : (empty : OrderedMap α).entries = [] := rfl

@[simp] theorem entries_insert (m : OrderedMap α) (key : String) (value : α) :
    (m.insert key value).entries = put key value m.entries := rfl

@[simp] theorem insertAll_nil (m : OrderedMap α) : m.insertAll [] = m := rfl

@[simp] theorem insertAll_cons (m : OrderedMap α) (e : String × α) (es : List (String × α)) :
    m.insertAll (e :: es) = (m.insert e.1 e.2).insertAll es := rfl

theorem insertAll_append (m : OrderedMap α) (xs ys : List (String × α)) :
    m.insertAll (xs ++ ys) = (m.insertAll xs).insertAll ys := by
  simp [insertAll, List.foldl_append]

end OrderedMap

end ServiceDoc
