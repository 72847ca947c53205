import Mathlib.Data.List.TakeWhile
import ServiceDoc.Proofs.OrderedMap.LastWrite
import ServiceDoc.Swagger.Paths
/-!
# The entries of the path map

The paths of a document are written one by one under names that are put together from what the sets
are called, so a later write might take the place of an earlier one. Here is when none does. A path
up to its first parenthesis is a slash and the name of its set, if that has no parenthesis itself
(`takeWhile_of_mem_pathsOf`). So sets of distinct names have no path in common, and the collection
and the instance of one set differ, as only the instance has a parenthesis.
-/

namespace ServiceDoc.Swagger

open Csdl

theorem mem_pathsOf {s : EntitySet} {e : String × PathItem} (he : e ∈ pathsOf s) :
    e = (collectionPath s, collectionItem s) ∨ e = (instancePath s, instanceItem s) := by
  rcases List.mem_cons.1 he with he | he
  · exact Or.inl he
  · split at he
    · simp at he
    · exact Or.inr (List.mem_singleton.1 he)

/-! ## Paths as lists of characters -/

theorem toList_collectionPath (s : EntitySet) :
    (collectionPath s).toList = '/' :: s.name.toList := by
  simp [collectionPath]

theorem toList_instancePath (s : EntitySet) :
    (instancePath s).toList = '/' :: (s.name.toList ++ '(' ::
      ([','].intercalate (s.entityType.key.map fun k => (keySegment k).toList) ++ [')'])) := by
  simp [instancePath, Function.comp_def]

section Stop

variable {stop : Char} {s : List Char}

theorem takeWhile_append_cons_self (h : stop ∉ s) (rest : List Char) :
    (s ++ stop :: rest).takeWhile (· ≠ stop) = s := by
  have hall : ∀ c ∈ s, decide (c ≠ stop) = true := by
    intro c hc
    exact decide_eq_true fun heq => h (heq ▸ hc)
  rw [List.takeWhile_append_of_pos hall, List.takeWhile_cons_of_neg (by simp), List.append_nil]

theorem dropWhile_append_cons_self (h : stop ∉ s) (rest : List Char) :
    (s ++ stop :: rest).dropWhile (· ≠ stop) = stop :: rest := by
  have hall : ∀ c ∈ s, decide (c ≠ stop) = true := by
    intro c hc
    exact decide_eq_true fun heq => h (heq ▸ hc)
  rw [List.dropWhile_append_of_pos hall, List.dropWhile_cons_of_neg (by simp)]

end Stop

theorem takeWhile_instancePath {s : EntitySet} (h : '(' ∉ s.name.toList) :
    (instancePath s).toList.takeWhile (· ≠ '(') = '/' :: s.name.toList := by
  rw [toList_instancePath, List.takeWhile_cons_of_pos (by decide), takeWhile_append_cons_self h]

/-- Both paths of a set begin with a slash and its name, and then end or go on with a
parenthesis. -/
theorem takeWhile_of_mem_pathsOf {s : EntitySet} (h : '(' ∉ s.name.toList)
    {e : String × PathItem} (he : e ∈ pathsOf s) :
    e.1.toList.takeWhile (· ≠ '(') = '/' :: s.name.toList := by
  rcases mem_pathsOf he with rfl | rfl
  · rw [toList_collectionPath, List.takeWhile_eq_self_iff]
    intro c hc
    refine decide_eq_true ?_
    rintro rfl
    rcases List.mem_cons.1 hc with hc | hc
    · cases hc
    · exact h hc
  · exact takeWhile_instancePath h

/-! ## No path is taken twice -/

theorem collectionPath_ne_instancePath {s : EntitySet} (h : '(' ∉ s.name.toList) :
    collectionPath s ≠ instancePath s := by
  intro heq
  have hparen : '(' ∈ (collectionPath s).toList := by
    rw [heq, toList_instancePath]
    simp
  rw [toList_collectionPath] at hparen
  simp [h] at hparen

theorem nodup_pathsOf {s : EntitySet} (h : '(' ∉ s.name.toList) :
    ((pathsOf s).map Prod.fst).Nodup := by
  rw [pathsOf]
  split
  · simp
  · simpa using collectionPath_ne_instancePath h

theorem nodup_flatMap_pathsOf {sets : List EntitySet} (hnames : (sets.map EntitySet.name).Nodup)
    (hplain : ∀ s ∈ sets, '(' ∉ s.name.toList) :
    ((sets.flatMap pathsOf).map Prod.fst).Nodup := by
  rw [List.map_flatMap, List.nodup_flatMap]
  refine ⟨fun s hs => nodup_pathsOf (hplain s hs), ?_⟩
  have hpair : sets.Pairwise fun s t => s.name ≠ t.name := List.pairwise_map.1 hnames
  refine hpair.imp_of_mem ?_
  intro s t hs ht hne p hp hp'
  obtain ⟨e, he, rfl⟩ := List.mem_map.1 hp
  obtain ⟨e', he', hpath⟩ := List.mem_map.1 hp'
  have hname : '/' :: t.name.toList = '/' :: s.name.toList := by
    rw [← takeWhile_of_mem_pathsOf (hplain t ht) he', hpath,
      takeWhile_of_mem_pathsOf (hplain s hs) he]
  exact hne (String.toList_injective (List.tail_eq_of_cons_eq hname)).symm

/-- Sets with distinct names and no parenthesis in them keep all their paths. -/
theorem entries_paths {sets : List EntitySet} (hnames : (sets.map EntitySet.name).Nodup)
    (hplain : ∀ s ∈ sets, '(' ∉ s.name.toList) :
    (paths sets).entries = sets.flatMap pathsOf :=
  OrderedMap.entries_ofList_of_nodup (nodup_flatMap_pathsOf hnames hplain)

theorem get?_paths_of_mem_pathsOf {sets : List EntitySet}
    (hnames : (sets.map EntitySet.name).Nodup) (hplain : ∀ s ∈ sets, '(' ∉ s.name.toList)
    {s : EntitySet} (hs : s ∈ sets) {path : String} {item : PathItem}
    (he : (path, item) ∈ pathsOf s) : (paths sets).get? path = some item := by
  rw [OrderedMap.get?_eq_some_iff, entries_paths hnames hplain]
  exact List.mem_flatMap.2 ⟨s, hs, he⟩

theorem length_pathsOf (s : EntitySet) :
    (pathsOf s).length = 1 + if s.entityType.key = [] then 0 else 1 := by
  by_cases h : s.entityType.key = [] <;> simp [pathsOf, h]

theorem length_flatMap_pathsOf (sets : List EntitySet) :
    (sets.flatMap pathsOf).length =
      sets.length + sets.countP fun s => s.entityType.key ≠ [] := by
  induction sets with
  | nil => rfl
  | cons s sets ih =>
      rw [List.flatMap_cons, List.length_append, ih, length_pathsOf, List.length_cons,
        List.countP_cons]
      by_cases h : s.entityType.key = [] <;> simp [h] <;> omega

/-- No path is lost or mixed up where the names of the sets are distinct and have no parenthesis.
The paths are, set by set, the collection with the operations on this set, and the instance with
those on an entity of it if it has a key. So there are as many paths as sets and sets with a key,
and behind each path stands what its own set has there. -/
theorem paths_of_distinct_names {sets : List EntitySet}
    (hnames : (sets.map EntitySet.name).Nodup) (hplain : ∀ s ∈ sets, '(' ∉ s.name.toList) :
    (paths sets).entries = (sets.flatMap fun s =>
        ("/" ++ s.name, collectionItem s) ::
          if s.entityType.key = [] then [] else [(instancePath s, instanceItem s)]) ∧
      (paths sets).size = sets.length + sets.countP (fun s => s.entityType.key ≠ []) ∧
      (∀ s ∈ sets, (collectionItem s).map Prod.fst = ["get", "post"] ∧
        (paths sets).get? ("/" ++ s.name) = some (collectionItem s)) ∧
      ∀ s ∈ sets, s.entityType.key ≠ [] →
        (instanceItem s).map Prod.fst = ["get", "delete", "patch"] ∧
          (paths sets).get? (instancePath s) = some (instanceItem s) := by
  have hentries := entries_paths hnames hplain
  refine ⟨?_, ?_, ?_, ?_⟩
  · rw [hentries]
    congr 1
    funext s
    simp only [pathsOf, collectionPath, List.isEmpty_iff]
  · rw [OrderedMap.size, hentries, length_flatMap_pathsOf]
  · intro s hs
    exact ⟨rfl, get?_paths_of_mem_pathsOf hnames hplain hs List.mem_cons_self⟩
  · intro s hs hkey
    refine ⟨rfl, get?_paths_of_mem_pathsOf hnames hplain hs ?_⟩
    simp [pathsOf, hkey]

/-- Sets whose names begin alike, and whose keys have in their names what paths are made of. -/
def crossingSets : List EntitySet :=
  [⟨"A", "N", ⟨"T", [], [⟨"k')", "Edm.String"⟩, ⟨"(", "Edm.Int32"⟩]⟩⟩,
    ⟨"A')", "N", ⟨"T", [], [⟨",", "Edm.Double"⟩]⟩⟩, ⟨"", "", ⟨"", [], []⟩⟩]

theorem paths_of_distinct_names_crossingSets :
    (crossingSets.map EntitySet.name).Nodup ∧ (∀ s ∈ crossingSets, '(' ∉ s.name.toList) ∧
      (paths crossingSets).keys =
        ["/A", "/A('\x7bk')\x7d',\x7b(\x7d)", "/A')", "/A')(\x7b,\x7d)", "/"] ∧
      (paths crossingSets).size = 3 + 2 := by
  have hnames : (crossingSets.map EntitySet.name).Nodup := by
    simp [crossingSets]
  have hplain : ∀ s ∈ crossingSets, '(' ∉ s.name.toList := by
    simp [crossingSets]
  obtain ⟨hentries, hsize, -⟩ := paths_of_distinct_names hnames hplain
  refine ⟨hnames, hplain, ?_, hsize⟩
  rw [OrderedMap.keys, hentries]
  rfl

end ServiceDoc.Swagger
