import ServiceDoc.Proofs.Csdl.SchemaOrder
import ServiceDoc.Proofs.Swagger.Agreement
import ServiceDoc.Proofs.Swagger.PathEntries
/-!
# Documents of reordered schemas

What the order of the schemas means for a document. The sets of a document come in the order of
their schemas, and so do its paths and definitions, but as maps they are the same for any order
(`sets_of_perm_schemas`), provided that what is written to one path or definition does not depend on
the order either.
-/

namespace ServiceDoc.Swagger

open Csdl
open Xml (Node Markup)

theorem get?_paths_of_perm {sets sets' : List EntitySet} (hperm : sets.Perm sets')
    (hnames : (sets.map EntitySet.name).Nodup) (hplain : ∀ s ∈ sets, '(' ∉ s.name.toList)
    (path : String) : (paths sets).get? path = (paths sets').get? path := by
  apply OrderedMap.get?_ofList_of_perm (hperm.flatMap_right pathsOf)
  intro e he e' he' heq
  have hnodup := nodup_flatMap_pathsOf hnames hplain
  exact congrArg Prod.snd (List.inj_on_of_nodup_map hnodup he he' heq)

theorem get?_definitions_of_perm {sets sets' : List EntitySet} (hperm : sets.Perm sets')
    (htypes : ∀ s ∈ sets, ∀ t ∈ sets, s.qualifiedType = t.qualifiedType →
      s.entityType = t.entityType) (name : String) :
    (definitions sets).get? name = (definitions sets').get? name := by
  apply OrderedMap.get?_ofList_of_perm ((hperm.map _).cons _)
  intro e he e' he' heq
  rw [List.mem_cons, List.mem_map] at he he'
  rcases he with rfl | ⟨s, hs, rfl⟩ <;> rcases he' with rfl | ⟨t, ht, rfl⟩
  · rfl
  · exact absurd heq.symm (qualifiedType_ne_errorDefinition t)
  · exact absurd heq (qualifiedType_ne_errorDefinition s)
  · exact congrArg Schema.ofEntityType (htypes s hs t ht heq)

/-- Two documents with the same schemas in another order, of which no two register a type under one
name, publish the same sets. Each schema publishes the same ones in both, whatever types of which
schemas they refer to, and the sets of a document are those of its schemas in its own order. The
paths and definitions are then the same maps. Taking schemas apart does not even change the
order. -/
theorem sets_of_perm_schemas {root root' : Node}
    (hperm : (root.allNamed "Schema").Perm (root'.allNamed "Schema"))
    (hkeys : RegisterApart (root.allNamed "Schema")) (options : Options) :
    (∀ schema, publishedIn root schema = publishedIn root' schema) ∧
      (Reading.ofTree root).sets = (root.allNamed "Schema").flatMap (publishedIn root) ∧
      (Reading.ofTree root').sets = (root'.allNamed "Schema").flatMap (publishedIn root') ∧
      (Reading.ofTree root).sets.Perm (Reading.ofTree root').sets ∧
      (∀ (divided : Node) (parts : List (List Node)),
        List.Forall₂ IsSplit (root.allNamed "Schema") parts →
        divided.allNamed "Schema" = parts.flatten →
        (Reading.ofTree divided).sets = (Reading.ofTree root).sets) ∧
      (((Reading.ofTree root).sets.map EntitySet.name).Nodup →
        (∀ s ∈ (Reading.ofTree root).sets, '(' ∉ s.name.toList) →
        ((typesBySchema root).map DeclaredType.qualifiedName).Nodup →
        let document := Document.ofSets (Reading.ofTree root).sets options
        let document' := Document.ofSets (Reading.ofTree root').sets options
        (∀ path, document.paths.get? path = document'.paths.get? path) ∧
          ∀ name, document.definitions.get? name = document'.definitions.get? name) := by
  have hsets := sets_perm_of_perm hperm hkeys
  refine ⟨publishedIn_of_perm hperm hkeys, sets_eq_flatMap_publishedIn root,
    sets_eq_flatMap_publishedIn root', hsets, fun _ _ => sets_of_isSplit, ?_⟩
  intro hnames hplain hdeclared
  refine ⟨get?_paths_of_perm hsets hnames hplain, get?_definitions_of_perm hsets ?_⟩
  intro s hs t ht
  exact entityType_eq_of_qualifiedType_eq hdeclared hs ht

/-- A schema with a container only. Its sets refer to a type of another schema by both its names. -/
def containerSchema : Markup :=
  .pair "Schema" [("Namespace", "A")] [
    .pair "EntityContainer" [] [
      .single "EntitySet" [("Name", "Ts"), ("EntityType", "b.T")],
      .single "EntitySet" [("Name", "Us"), ("EntityType", "B.T")]]]

def typeSchema : Markup :=
  .pair "Schema" [("Namespace", "B"), ("Alias", "b")] [
    .pair "EntityType" [("Name", "T")] [
      .pair "Key" [] [.single "PropertyRef" [("Name", "id")]],
      .single "Property" [("Name", "id"), ("Type", "Edm.Int32")]]]

def forwardTree : Node := (Markup.pair "Edmx" [] [containerSchema, typeSchema]).node

def backwardTree : Node := (Markup.pair "Edmx" [] [typeSchema, containerSchema]).node

theorem sets_of_perm_schemas_backwardTree :
    (forwardTree.allNamed "Schema").Perm (backwardTree.allNamed "Schema") ∧
      RegisterApart (forwardTree.allNamed "Schema") ∧
      publishedIn backwardTree containerSchema.node = (Reading.ofTree forwardTree).sets ∧
      (Document.ofSets (Reading.ofTree backwardTree).sets {}).paths.get? "/Us(\x7bid\x7d)" =
        some (instanceItem ⟨"Us", "B", ⟨"T", [⟨"id", "Edm.Int32"⟩], [⟨"id", "Edm.Int32"⟩]⟩⟩) := by
  have hforward : forwardTree.allNamed "Schema" = [containerSchema.node, typeSchema.node] := by
    rfl
  have hperm : (forwardTree.allNamed "Schema").Perm (backwardTree.allNamed "Schema") := by
    rw [hforward]
    exact List.Perm.swap typeSchema.node containerSchema.node []
  have hkeys : RegisterApart (forwardTree.allNamed "Schema") := by
    rw [hforward, RegisterApart, List.pairwise_pair]
    rintro name ⟨⟨d, hd, -⟩, -⟩
    cases hd
  let type : EntityType := ⟨"T", [⟨"id", "Edm.Int32"⟩], [⟨"id", "Edm.Int32"⟩]⟩
  have hsets : (Reading.ofTree forwardTree).sets = [⟨"Ts", "B", type⟩, ⟨"Us", "B", type⟩] := by
    rfl
  have hdeclared : (typesBySchema forwardTree).map DeclaredType.qualifiedName = ["B.T"] := by
    rfl
  obtain ⟨hpublished, -, -, -, -, hdocument⟩ := sets_of_perm_schemas hperm hkeys {}
  obtain ⟨hpaths, -⟩ := hdocument (by simp [hsets]) (by simp [hsets]) (by simp [hdeclared])
  refine ⟨hperm, hkeys, ?_, ?_⟩
  · rw [← hpublished]
    rfl
  · rw [← hpaths, hsets]
    rfl

end ServiceDoc.Swagger
