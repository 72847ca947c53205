import Mathlib.Data.List.Pairwise
import ServiceDoc.Proofs.Swagger.References
/-!
# Unique operation ids

The id of an operation is a verb and a name behind it: the name of the set where the set is listed,
and the name of its type elsewhere. Four verbs that begin with different letters are enough to tell
from an id what it is made of (`eq_of_id_eq`), so two ids are equal only where the same verb goes
with the same name. Listing a set and reading an entity share their verb; it is there that the name
of a set must not be the name of a type.
-/

namespace ServiceDoc.Swagger

open Csdl

/-! ## What the ids are made of -/

/-- What an operation does, and the name that says to what. -/
structure Action where
  verb : String
  name : String

namespace Action

def verbs : List String := ["get", "create", "delete", "update"]

def id (a : Action) : String := a.verb ++ a.name

/-- The actions on a set, in the order of its operations. -/
def ofSet (s : EntitySet) : List Action :=
  ⟨"get", s.name⟩ :: ⟨"create", s.entityType.name⟩ ::
    if s.entityType.key = [] then []
    else [⟨"get", s.entityType.name⟩, ⟨"delete", s.entityType.name⟩, ⟨"update", s.entityType.name⟩]

theorem verb_mem_of_mem_ofSet {s : EntitySet} {a : Action} (h : a ∈ ofSet s) : a.verb ∈ verbs := by
  have hall : (ofSet s).map verb ⊆ verbs := by
    rw [ofSet]
    split <;> simp [verbs]
  exact hall (List.mem_map_of_mem h)

/-- A verb is known by its first letter. -/
theorem verb_eq_of_head?_eq :
    ∀ v ∈ verbs, ∀ w ∈ verbs, v.toList.head? = w.toList.head? → v = w := by
  decide

theorem head?_id {a : Action} (h : a.verb ∈ verbs) :
    a.id.toList.head? = a.verb.toList.head? := by
  have hne : ∀ v ∈ verbs, v.toList ≠ [] := by decide
  rw [id, String.toList_append, List.head?_append_of_ne_nil _ (hne a.verb h)]

theorem eq_of_id_eq {a b : Action} (ha : a.verb ∈ verbs) (hb : b.verb ∈ verbs) (h : a.id = b.id) :
    a = b := by
  obtain ⟨v, x⟩ := a
  obtain ⟨w, y⟩ := b
  have hverb : v = w := by
    refine verb_eq_of_head?_eq v ha w hb ?_
    rw [← head?_id (a := ⟨v, x⟩) ha, h, head?_id (a := ⟨w, y⟩) hb]
  subst hverb
  have hlist := congrArg String.toList h
  simp only [id, String.toList_append] at hlist
  rw [String.toList_injective (List.append_cancel_left hlist)]

/-! ## Actions on several sets -/

theorem nodup_ofSet_iff (s : EntitySet) :
    (ofSet s).Nodup ↔ (s.entityType.key ≠ [] → s.name ≠ s.entityType.name) := by
  by_cases h : s.entityType.key = [] <;> simp [ofSet, h]

/-- Two sets have no action in common if neither their names nor those of their types are equal, and
the name of neither is that of the other's type, as far as this type has a key. -/
theorem disjoint_ofSet_iff (s t : EntitySet) :
    (ofSet s).Disjoint (ofSet t) ↔
      s.name ≠ t.name ∧ s.entityType.name ≠ t.entityType.name ∧
        (t.entityType.key ≠ [] → s.name ≠ t.entityType.name) ∧
        (s.entityType.key ≠ [] → t.name ≠ s.entityType.name) := by
  by_cases hs : s.entityType.key = [] <;> by_cases ht : t.entityType.key = [] <;>
    simp [ofSet, hs, ht, List.disjoint_left, eq_comm] <;> tauto

/-- The name of neither set is that of the type of the other one, if that type has a key. -/
def Apart (s t : EntitySet) : Prop :=
  (t.entityType.key ≠ [] → s.name ≠ t.entityType.name) ∧
    (s.entityType.key ≠ [] → t.name ≠ s.entityType.name)

instance : Std.Symm Apart := ⟨fun _ _ => And.symm⟩

theorem forall_apart_iff (sets : List EntitySet) :
    (∀ s ∈ sets, Apart s s) ∧ sets.Pairwise Apart ↔
      ∀ s ∈ sets, ∀ t ∈ sets, t.entityType.key ≠ [] → s.name ≠ t.entityType.name := by
  constructor
  · rintro ⟨hself, hpair⟩ s hs t ht
    exact (hpair.forall_of_forall hself hs ht).1
  · intro h
    have hall : ∀ s ∈ sets, ∀ t ∈ sets, Apart s t := fun s hs t ht => ⟨h s hs t ht, h t ht s hs⟩
    exact ⟨fun s hs => hall s hs s hs, List.pairwise_of_forall_mem_list hall⟩

theorem nodup_flatMap_ofSet_iff {sets : List EntitySet} (hnames : (sets.map EntitySet.name).Nodup) :
    (sets.flatMap ofSet).Nodup ↔
      (sets.map fun s => s.entityType.name).Nodup ∧
        ∀ s ∈ sets, ∀ t ∈ sets, t.entityType.key ≠ [] → s.name ≠ t.entityType.name := by
  have hsets : sets.Pairwise fun s t => s.name ≠ t.name := List.pairwise_map.1 hnames
  have htypes : (sets.map fun s => s.entityType.name).Nodup ↔
      sets.Pairwise fun s t => s.entityType.name ≠ t.entityType.name := List.pairwise_map
  rw [List.nodup_flatMap, List.Pairwise.iff disjoint_ofSet_iff, List.pairwise_and_iff,
    List.pairwise_and_iff, htypes, ← forall_apart_iff]
  simp only [nodup_ofSet_iff]
  constructor
  · rintro ⟨hself, -, htype, hpair⟩
    exact ⟨htype, fun s hs => ⟨hself s hs, hself s hs⟩, hpair⟩
  · rintro ⟨htype, hself, hpair⟩
    exact ⟨fun s hs => (hself s hs).1, hsets, htype, hpair⟩

theorem nodup_map_id_iff (sets : List EntitySet) :
    ((sets.flatMap ofSet).map id).Nodup ↔ (sets.flatMap ofSet).Nodup := by
  refine ⟨List.Nodup.of_map id, fun h => (List.nodup_map_iff_inj_on h).2 ?_⟩
  intro a ha b hb
  obtain ⟨s, -, ha⟩ := List.mem_flatMap.1 ha
  obtain ⟨t, -, hb⟩ := List.mem_flatMap.1 hb
  exact eq_of_id_eq (verb_mem_of_mem_ofSet ha) (verb_mem_of_mem_ofSet hb)

end Action

/-! ## Ids in a document -/

/-- Parameters, and what an operation answers, have no ids in them. -/
theorem operationIds_operation {o : Operation} (hstatus : o.status ≠ "operationId")
    (hsuccess : o.success.toJson.valuesAt "operationId" = []) :
    o.toJson.valuesAt "operationId" = [.str o.id] := by
  have hparameter (p : Parameter) : p.toJson.valuesAt "operationId" = [] := by
    cases p <;> simp [Parameter.toJson, Schema.toJson]
  have hunexpected : Response.unexpected.toJson.valuesAt "operationId" = [] := by
    simp [Response.unexpected, Response.toJson, Schema.toJson]
  obtain ⟨id, parameters, status, success⟩ := o
  cases parameters with
  | none => simp_all [Operation.toJson]
  | some ps => simp_all [Operation.toJson, List.flatMap_map]

theorem operationIds_pathsOf (s : EntitySet) :
    (pathsOf s).flatMap (fun e => (PathItem.toJson e.2).valuesAt "operationId") =
      ((Action.ofSet s).map Action.id).map Json.str := by
  by_cases h : s.entityType.key = [] <;>
    simp [pathsOf, h, PathItem.toJson, collectionItem, instanceItem, operationIds_operation,
      Response.empty, Response.toJson, Schema.toJson, Action.ofSet, Action.id]

/-- Every path begins with a slash. -/
theorem head?_of_mem_pathsOf {s : EntitySet} {e : String × PathItem} (he : e ∈ pathsOf s) :
    e.1.toList.head? = some '/' := by
  rcases mem_pathsOf he with rfl | rfl
  · rw [toList_collectionPath, List.head?_cons]
  · rw [toList_instancePath, List.head?_cons]

theorem operationIds_pathsJson {sets : List EntitySet} (hnames : (sets.map EntitySet.name).Nodup)
    (hplain : ∀ s ∈ sets, '(' ∉ s.name.toList) :
    (Document.pathsJson (paths sets)).valuesAt "operationId" =
      ((sets.flatMap Action.ofSet).map Action.id).map Json.str := by
  rw [Document.pathsJson, Json.valuesAt_obj, entries_paths hnames hplain, List.flatMap_map,
    List.flatMap_assoc, List.map_flatMap, List.map_flatMap]
  refine List.flatMap_congr fun s _ => ?_
  rw [← operationIds_pathsOf]
  refine List.flatMap_congr fun e he => ?_
  have hpath : e.1 ≠ "operationId" := by
    intro heq
    have hhead := head?_of_mem_pathsOf he
    rw [heq] at hhead
    cases hhead
  rw [if_neg hpath, List.nil_append]

/-- The operations of sets with distinct names, in which no parenthesis stands, have distinct ids
exactly if the types of the sets have distinct names, and no set has the name of a type with a key,
be it its own type or that of another set. -/
theorem nodup_operationIds_iff {sets : List EntitySet} (hnames : (sets.map EntitySet.name).Nodup)
    (hplain : ∀ s ∈ sets, '(' ∉ s.name.toList) :
    ((Document.pathsJson (paths sets)).valuesAt "operationId").Nodup ↔
      (sets.map fun s => s.entityType.name).Nodup ∧
        ∀ s ∈ sets, ∀ t ∈ sets, t.entityType.key ≠ [] → s.name ≠ t.entityType.name := by
  have hstr : Function.Injective Json.str := fun _ _ h => Json.str.inj h
  rw [operationIds_pathsJson hnames hplain, List.nodup_map_iff hstr, Action.nodup_map_id_iff,
    Action.nodup_flatMap_ofSet_iff hnames]

/-- The first set has the name of its own type, the second one that of the type of the third, which
has no key. -/
def namesakeSets (key : List Property) : List EntitySet :=
  [⟨"A", "N", ⟨"A", [], key⟩⟩, ⟨"B", "N", ⟨"C", [], [⟨"k", "Edm.Int32"⟩]⟩⟩,
    ⟨"D", "M", ⟨"B", [], []⟩⟩]

theorem nodup_operationIds_iff_namesakeSets :
    ((namesakeSets []).map EntitySet.name).Nodup ∧
      (∀ s ∈ namesakeSets [], '(' ∉ s.name.toList) ∧
      ((Document.pathsJson (paths (namesakeSets []))).valuesAt "operationId").Nodup ∧
      ¬ ((Document.pathsJson (paths (namesakeSets [⟨"k", ""⟩]))).valuesAt "operationId").Nodup := by
  have hnames (key : List Property) : ((namesakeSets key).map EntitySet.name).Nodup := by
    simp [namesakeSets]
  have hplain (key : List Property) : ∀ s ∈ namesakeSets key, '(' ∉ s.name.toList := by
    simp [namesakeSets]
  refine ⟨hnames [], hplain [], ?_, ?_⟩
  · rw [nodup_operationIds_iff (hnames []) (hplain [])]
    simp [namesakeSets]
  · rw [nodup_operationIds_iff (hnames _) (hplain _)]
    simp [namesakeSets]

end ServiceDoc.Swagger
