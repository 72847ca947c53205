import ServiceDoc.Proofs.Json.Members
import ServiceDoc.Proofs.Swagger.PathEntries
/-!
# Instance paths as templates

An instance path is a template: its placeholders stand for the parameters that the operations take
from the path. Here a template is read from the text alone, from left to right, and what is read
from the path of a set is its name, and its key with the quotes (`ofPath?_instancePath`). So the
path and the parameters, which are put together apart from each other, speak of the same key. Key
names may hold commas, quotes and parentheses; only a closing brace would end a placeholder early.
-/

namespace ServiceDoc.Swagger

open Csdl

/-- A placeholder of a path, and whether it stands in single quotes. -/
structure Placeholder where
  name : String
  quoted : Bool
  deriving DecidableEq, Repr

namespace Placeholder

/-- The placeholders of a text from left to right: each is the text between an opening brace and the
next closing one. `before` is the character in front of the text. -/
def all (before : Option Char) : List Char → List Placeholder
  | [] => []
  | c :: r =>
    if c = '\x7b' then
      match _h : r.dropWhile (· ≠ '\x7d') with
      | [] => []
      | _ :: rest =>
        ⟨String.ofList (r.takeWhile (· ≠ '\x7d')), before = some '\'' ∧ rest.head? = some '\''⟩ ::
          all (some '\x7d') rest
    else all (some c) r
termination_by s => s.length
decreasing_by
  · have hle := (List.dropWhile_sublist (p := (· ≠ '\x7d')) (l := r)).length_le
    rw [_h, List.length_cons] at hle
    rw [List.length_cons]
    omega
  · exact Nat.lt_succ_self _

/-- The placeholder of a key property: in quotes unless its type is written bare. -/
def ofKey (k : Property) : Placeholder := ⟨k.name, k.type ∉ DataType.bareKeyTypes⟩

end Placeholder

/-- The name of a set, and the placeholders behind it. -/
structure Template where
  setName : String
  placeholders : List Placeholder
  deriving DecidableEq, Repr

/-- Reads a path: the name is what stands between its leading slash and its first parenthesis. -/
def Template.ofPath? (path : String) : Option Template :=
  match path.toList with
  | '/' :: r =>
    if '(' ∈ r then
      some ⟨String.ofList (r.takeWhile (· ≠ '(')), Placeholder.all none path.toList⟩
    else none
  | _ => none

namespace Placeholder

/-! ## Reading placeholders -/

theorem all_cons_of_ne (before : Option Char) {c : Char} (h : c ≠ '\x7b') (r : List Char) :
    all before (c :: r) = all (some c) r := by
  rw [all, if_neg h]

/-- A text without an opening brace has no placeholders. -/
theorem all_append_of_notMem {s : List Char} (h : '\x7b' ∉ s) (before : Option Char) (c : Char)
    (hc : c ≠ '\x7b') (r : List Char) : all before (s ++ c :: r) = all (some c) r := by
  induction s generalizing before with
  | nil => exact all_cons_of_ne before hc r
  | cons d s ih =>
      rw [List.mem_cons, not_or] at h
      rw [List.cons_append, all_cons_of_ne before (Ne.symm h.1), ih h.2]

theorem all_braces {name : List Char} (h : '\x7d' ∉ name) (before : Option Char) (r : List Char) :
    all before ('\x7b' :: (name ++ '\x7d' :: r)) =
      ⟨String.ofList name, before = some '\'' ∧ r.head? = some '\''⟩ :: all (some '\x7d') r := by
  have hdrop := dropWhile_append_cons_self h r
  rw [all, if_pos rfl]
  split
  · next heq =>
    rw [hdrop] at heq
    cases heq
  · next heq =>
    rw [hdrop] at heq
    cases heq
    rw [takeWhile_append_cons_self h]

/-- One placeholder of a key is read back, if no quote stands in front of it. -/
theorem all_keySegment {k : Property} (hk : '\x7d' ∉ k.name.toList) {before : Option Char}
    (hbefore : before ≠ some '\'') {c : Char} (hc : c ≠ '\x7b') (r : List Char) :
    all before ((keySegment k).toList ++ c :: r) = ofKey k :: all (some c) r := by
  by_cases h : k.type ∈ DataType.bareKeyTypes
  · have hsegment : (keySegment k).toList ++ c :: r =
        '\x7b' :: (k.name.toList ++ '\x7d' :: c :: r) := by
      simp [keySegment, DataType.isBareKey, h]
    rw [hsegment, all_braces hk, all_cons_of_ne _ hc]
    simp [ofKey, h, hbefore]
  · have hsegment : (keySegment k).toList ++ c :: r =
        '\'' :: '\x7b' :: (k.name.toList ++ '\x7d' :: '\'' :: c :: r) := by
      simp [keySegment, DataType.isBareKey, h]
    rw [hsegment, all_cons_of_ne _ (by decide), all_braces hk, all_cons_of_ne _ (by decide),
      all_cons_of_ne _ hc]
    simp [ofKey, h]

/-- The placeholders of a whole key are read back. In front of each of them stands a parenthesis or
a comma, so the quotes of one are not taken for those of another. -/
theorem all_intercalate_keySegment {key : List Property}
    (hkey : ∀ k ∈ key, '\x7d' ∉ k.name.toList) {before : Option Char}
    (hbefore : before ≠ some '\'') :
    all before ([','].intercalate (key.map fun k => (keySegment k).toList) ++ [')']) =
      key.map ofKey := by
  induction key generalizing before with
  | nil => rw [List.map_nil, List.intercalate_nil, List.nil_append, all_cons_of_ne _ (by decide), all,
      List.map_nil]
  | cons k key ih =>
      have hk := hkey k List.mem_cons_self
      have hrest : ∀ k ∈ key, '\x7d' ∉ k.name.toList := fun k' hk' =>
        hkey k' (List.mem_cons_of_mem k hk')
      cases key with
      | nil =>
          rw [List.map_singleton, List.intercalate_singleton,
            all_keySegment hk hbefore (by decide), all, List.map_singleton]
      | cons k' key =>
          rw [List.map_cons, List.map_cons, List.intercalate_cons_cons, List.append_assoc,
            List.append_assoc, List.singleton_append, all_keySegment hk hbefore (by decide)]
          exact congrArg (List.cons (ofKey k)) (ih hrest (by decide))

end Placeholder

/-- The names of a set and of its key are free of the marks that would end them early, or begin a
placeholder, in the path of an instance. -/
structure HasPlainNames (s : EntitySet) : Prop where
  parenthesis_notMem : '(' ∉ s.name.toList
  brace_notMem : '\x7b' ∉ s.name.toList
  brace_notMem_key : ∀ k ∈ s.entityType.key, '\x7d' ∉ k.name.toList

/-- What is read from the instance path of a set is its name and its key. -/
theorem ofPath?_instancePath {s : EntitySet} (h : HasPlainNames s) :
    Template.ofPath? (instancePath s) =
      some ⟨s.name, s.entityType.key.map Placeholder.ofKey⟩ := by
  rw [Template.ofPath?, toList_instancePath]
  simp only [takeWhile_append_cons_self h.parenthesis_notMem]
  rw [if_pos (by simp), String.ofList_toList, Placeholder.all_cons_of_ne _ (by decide),
    Placeholder.all_append_of_notMem h.brace_notMem _ _ (by decide),
    Placeholder.all_intercalate_keySegment h.brace_notMem_key (by decide)]

/-! ## Parameters -/

theorem at?_parameter (p : Parameter) :
    p.toJson.at? ["name"] = some (.str p.name) ∧ p.toJson.at? ["in"] = some (.str p.place) ∧
      p.toJson.at? ["required"] = some (.bool true) := by
  cases p <;> simp [Parameter.toJson, Parameter.name, Parameter.place]

theorem place_of_mem_keyParameters {s : EntitySet} {p : Parameter} (hp : p ∈ keyParameters s) :
    p.place = "path" := by
  obtain ⟨k, -, rfl⟩ := List.mem_map.1 hp
  rfl

theorem map_name_keyParameters (s : EntitySet) :
    (keyParameters s).map Parameter.name = s.entityType.key.map Property.name := by
  rw [keyParameters, List.map_map]
  rfl

theorem filter_place_keyParameters (s : EntitySet) :
    (keyParameters s).filter (·.place = "path") = keyParameters s := by
  rw [List.filter_eq_self]
  intro p hp
  exact decide_eq_true (place_of_mem_keyParameters hp)

theorem nodup_keyParameters {s : EntitySet} (h : (s.entityType.key.map Property.name).Nodup) :
    ((keyParameters s).map fun p => (p.name, p.place)).Nodup := by
  rw [← map_name_keyParameters] at h
  exact List.Nodup.of_map Prod.fst (by rwa [List.map_map])

/-- What the parameters `ps` of an operation on an entity of `s` are: the key, taken from the path,
and the body behind it just in an update. -/
structure TakesKey (s : EntitySet) (method : String) (ps : List Parameter) : Prop where
  names_eq : (ps.filter (·.place = "path")).map Parameter.name = s.entityType.key.map Property.name
  body_last : method = "patch" →
    ∃ keys body, ps = keys ++ [body] ∧ (∀ p ∈ keys, p.place = "path") ∧ body.place = "body"
  only_key : method ≠ "patch" → ∀ p ∈ ps, p.place = "path"
  nodup : (s.entityType.key.map Property.name).Nodup → (ps.map fun p => (p.name, p.place)).Nodup

theorem takesKey_keyParameters (s : EntitySet) {method : String} (h : method ≠ "patch") :
    TakesKey s method (keyParameters s) where
  names_eq := by rw [filter_place_keyParameters, map_name_keyParameters]
  body_last := fun hpatch => absurd hpatch h
  only_key := fun _ _ hp => place_of_mem_keyParameters hp
  nodup := nodup_keyParameters

theorem takesKey_patch (s : EntitySet) :
    TakesKey s "patch" (keyParameters s ++ [bodyParameter s]) where
  names_eq := by
    rw [List.filter_append, filter_place_keyParameters,
      List.filter_cons_of_neg (by simp [bodyParameter, Parameter.place]), List.filter_nil,
      List.append_nil, map_name_keyParameters]
  body_last := fun _ => ⟨_, _, rfl, fun _ hp => place_of_mem_keyParameters hp, rfl⟩
  only_key := fun h => absurd rfl h
  nodup := by
    intro h
    rw [List.map_append, List.map_singleton, ← List.concat_eq_append, List.nodup_concat]
    refine ⟨?_, nodup_keyParameters h⟩
    intro hmem
    obtain ⟨p, hp, heq⟩ := List.mem_map.1 hmem
    have hplace := (Prod.mk.inj heq).2
    rw [place_of_mem_keyParameters hp] at hplace
    exact absurd hplace (by simp [bodyParameter, Parameter.place])

theorem exists_parameters_of_mem_instanceItem (s : EntitySet) {e : String × Operation}
    (he : e ∈ instanceItem s) :
    ∃ ps, (PathItem.toJson (instanceItem s)).at? [e.1, "parameters"] =
        some (.arr (ps.map Parameter.toJson)) ∧ TakesKey s e.1 ps := by
  simp only [instanceItem, List.mem_cons, List.not_mem_nil, or_false] at he
  rcases he with rfl | rfl | rfl
  · exact ⟨keyParameters s, by simp [PathItem.toJson, instanceItem, Operation.toJson],
      takesKey_keyParameters s (by simp)⟩
  · exact ⟨keyParameters s, by simp [PathItem.toJson, instanceItem, Operation.toJson],
      takesKey_keyParameters s (by simp)⟩
  · exact ⟨_, by simp [PathItem.toJson, instanceItem, Operation.toJson], takesKey_patch s⟩

/-- The path of an instance and the parameters of its operations speak of one key. The path is read
back as the name of the set and its key, in quotes where a type is not written bare, and every
operation takes the properties of this key from the path, in this order. So two sets that have one
path also have the same name and the same key, up to types that are written alike. -/
theorem template_agrees_with_parameters {s : EntitySet} (h : HasPlainNames s) :
    Template.ofPath? (instancePath s) = some ⟨s.name, s.entityType.key.map fun k =>
        ⟨k.name, k.type ∉ DataType.bareKeyTypes⟩⟩ ∧
      (instanceItem s).map Prod.fst = ["get", "delete", "patch"] ∧
      (∀ method ∈ ["get", "delete", "patch"], ∃ ps,
        (PathItem.toJson (instanceItem s)).at? [method, "parameters"] =
            some (.arr (ps.map Parameter.toJson)) ∧
          (∀ p ∈ ps, p.toJson.at? ["name"] = some (.str p.name) ∧
            p.toJson.at? ["in"] = some (.str p.place) ∧
            p.toJson.at? ["required"] = some (.bool true)) ∧
          TakesKey s method ps) ∧
      ∀ t, HasPlainNames t → instancePath t = instancePath s → t.name = s.name ∧
        (t.entityType.key.map fun k => (k.name, decide (k.type ∉ DataType.bareKeyTypes))) =
          s.entityType.key.map fun k => (k.name, decide (k.type ∉ DataType.bareKeyTypes)) := by
  refine ⟨ofPath?_instancePath h, rfl, ?_, ?_⟩
  · intro method hmethod
    obtain ⟨e, he, rfl⟩ := List.mem_map.1
      (show method ∈ (instanceItem s).map Prod.fst from hmethod)
    obtain ⟨ps, hps, htakes⟩ := exists_parameters_of_mem_instanceItem s he
    exact ⟨ps, hps, fun p _ => at?_parameter p, htakes⟩
  · intro t ht hpath
    have htemplate := ofPath?_instancePath ht
    rw [hpath, ofPath?_instancePath h] at htemplate
    obtain ⟨hname, hplaceholders⟩ := Template.mk.inj (Option.some.inj htemplate)
    refine ⟨hname.symm, ?_⟩
    have hpairs := congrArg (List.map fun q : Placeholder => (q.name, q.quoted)) hplaceholders
    rw [List.map_map, List.map_map] at hpairs
    exact hpairs.symm

/-- A set whose name and key hold marks of a path. Its path is the same for all types that are
written bare. -/
def markedSet (type : String) : EntitySet :=
  ⟨"A','", "N", ⟨"T", [], [⟨"k'),(", "Edm.Guid"⟩, ⟨"'", type⟩]⟩⟩

theorem hasPlainNames_markedSet (type : String) : HasPlainNames (markedSet type) := by
  constructor <;> simp [markedSet]

theorem template_agrees_with_parameters_markedSet :
    HasPlainNames (markedSet "Edm.Int16") ∧ HasPlainNames (markedSet "Edm.Double") ∧
      Template.ofPath? "/A','('\x7bk'),(\x7d',\x7b'\x7d)" =
        some ⟨"A','", [⟨"k'),(", true⟩, ⟨"'", false⟩]⟩ ∧
      (∃ ps : List Parameter,
        (PathItem.toJson (instanceItem (markedSet "Edm.Int16"))).at? ["patch", "parameters"] =
          some (.arr (ps.map Parameter.toJson)) ∧ (ps.map fun p => (p.name, p.place)).Nodup) ∧
      (markedSet "Edm.Double").name = "A','" := by
  obtain ⟨htemplate, -, hparameters, hunique⟩ :=
    template_agrees_with_parameters (hasPlainNames_markedSet "Edm.Int16")
  refine ⟨hasPlainNames_markedSet _, hasPlainNames_markedSet _, htemplate, ?_, ?_⟩
  · obtain ⟨ps, hps, -, htakes⟩ := hparameters "patch" (by simp)
    exact ⟨ps, hps, htakes.nodup (by simp [markedSet])⟩
  · exact (hunique (markedSet "Edm.Double") (hasPlainNames_markedSet _) rfl).1

end ServiceDoc.Swagger
