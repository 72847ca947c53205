import ServiceDoc.Proofs.Csdl.Table
import ServiceDoc.Proofs.Xml.RoundTrip
/-!
# Reading written metadata back

Entity sets written as a metadata document: a schema for the type of each set, and a last schema
whose container has the sets. The main statement is `reading_metadataText`: whatever texts the sets
are made of, the document is read as the same sets in the same order, and nothing is left out.

Sets of one type repeat its declaration. That does no harm as long as they agree on it, which is
what `Publishable` asks for besides legal characters and keys that are made of properties.
-/

namespace ServiceDoc.Csdl

open Xml (Markup Node isLegal)
open Xml.Markup

/-! ## The document -/

def propertyMarkup (p : Property) : Markup :=
  .single "Property" [("Name", p.name), ("Type", p.type)]

def keyMarkup (key : List Property) : Markup :=
  .pair "Key" [] (key.map fun k => .single "PropertyRef" [("Name", k.name)])

def typeMarkup (t : EntityType) : Markup :=
  .pair "EntityType" [("Name", t.name)] (keyMarkup t.key :: t.properties.map propertyMarkup)

def schemaMarkup (s : EntitySet) : Markup :=
  .pair "Schema" [("Namespace", s.space)] [typeMarkup s.entityType]

def setMarkup (s : EntitySet) : Markup :=
  .single "EntitySet" [("Name", s.name), ("EntityType", s.qualifiedType)]

def containerMarkup (sets : List EntitySet) : Markup :=
  .pair "Schema" [] [.pair "EntityContainer" [] (sets.map setMarkup)]

def metadata (sets : List EntitySet) : Markup :=
  .pair "Edmx" [] (sets.map schemaMarkup ++ [containerMarkup sets])

/-- The metadata document of some sets. -/
def metadataText (sets : List EntitySet) : String := String.ofList (metadata sets).text

example : metadataText [⟨"Products", "NS", ⟨"P", [⟨"a<b", "Edm.Int32"⟩], [⟨"a<b", "Edm.Int32"⟩]⟩⟩] =
    "<Edmx><Schema Namespace=\x22NS\x22><EntityType Name=\x22P\x22>" ++
      "<Key><PropertyRef Name=\x22a&lt;b\x22/></Key>" ++
      "<Property Name=\x22a&lt;b\x22 Type=\x22Edm.Int32\x22/></EntityType></Schema>" ++
      "<Schema><EntityContainer><EntitySet Name=\x22Products\x22 EntityType=\x22NS.P\x22/>" ++
      "</EntityContainer></Schema></Edmx>" := by
  cbv

def IsLegalText (s : String) : Prop := ∀ c ∈ s.toList, isLegal c

/-- Sets that a document can publish: legal texts, keys made of properties that differ in their
names, and one declaration for each qualified name. -/
structure Publishable (sets : List EntitySet) : Prop where
  names : ∀ s ∈ sets, IsLegalText s.name ∧ IsLegalText s.space ∧ IsLegalText s.entityType.name
  properties : ∀ s ∈ sets, ∀ p ∈ s.entityType.properties, IsLegalText p.name ∧ IsLegalText p.type
  distinct : ∀ s ∈ sets, (s.entityType.properties.map Property.name).Nodup
  keys : ∀ s ∈ sets, ∀ k ∈ s.entityType.key, k ∈ s.entityType.properties
  types : ∀ s ∈ sets, ∀ t ∈ sets, s.qualifiedType = t.qualifiedType →
    s.space = t.space ∧ s.entityType = t.entityType

/-! ## Writing -/

/-- The names of attributes can be checked apart from their values. -/
theorem areWritable_of_names {attributes : List (String × String)} (names : List String)
    (h : attributes.map Prod.fst = names)
    (hn : ∀ n ∈ names, Xml.isPlainName n.toList ∧ n.toList ≠ ['x', 'm', 'l', 'n', 's'])
    (hd : names.Nodup) (hv : ∀ v ∈ attributes.map Prod.snd, IsLegalText v) :
    Xml.AreWritable attributes := by
  subst h
  refine ⟨?_, hd, ?_⟩
  · intro a ha
    exact hn a.1 (List.mem_map_of_mem ha)
  · intro a ha
    exact hv a.2 (List.mem_map_of_mem ha)

theorem areWritable_nil : Xml.AreWritable [] :=
  areWritable_of_names [] rfl (by simp) (by simp) (by simp)

theorem isLegalText_qualify {space name : String} (hs : IsLegalText space)
    (hn : IsLegalText name) : IsLegalText (qualify space name) := by
  intro c hc
  rw [qualify, String.toList_append, String.toList_append, List.mem_append, List.mem_append] at hc
  rcases hc with (hc | hc) | hc
  · exact hs c hc
  · have hdot : c = '.' := by simpa using hc
    subst hdot
    rfl
  · exact hn c hc

theorem isWritable_propertyMarkup {p : Property} (hn : IsLegalText p.name)
    (ht : IsLegalText p.type) : (propertyMarkup p).IsWritable := by
  refine .single (by decide) (areWritable_of_names ["Name", "Type"] rfl (by decide) (by decide) ?_)
  simp [hn, ht]

theorem isWritable_keyMarkup {key : List Property} (hk : ∀ k ∈ key, IsLegalText k.name) :
    (keyMarkup key).IsWritable := by
  refine .pair (by decide) areWritable_nil ?_
  intro m hm
  obtain ⟨k, hkey, rfl⟩ := List.mem_map.1 hm
  refine .single (by decide) (areWritable_of_names ["Name"] rfl (by decide) (by decide) ?_)
  simp [hk k hkey]

theorem isWritable_typeMarkup {t : EntityType} (hn : IsLegalText t.name)
    (hp : ∀ p ∈ t.properties, IsLegalText p.name ∧ IsLegalText p.type)
    (hk : ∀ k ∈ t.key, k ∈ t.properties) : (typeMarkup t).IsWritable := by
  refine .pair (by decide) (areWritable_of_names ["Name"] rfl (by decide) (by decide) ?_) ?_
  · simp [hn]
  · intro m hm
    rcases List.mem_cons.1 hm with rfl | hm
    · exact isWritable_keyMarkup fun k hkey => (hp k (hk k hkey)).1
    · obtain ⟨p, hprop, rfl⟩ := List.mem_map.1 hm
      exact isWritable_propertyMarkup (hp p hprop).1 (hp p hprop).2

theorem isWritable_metadata {sets : List EntitySet} (h : Publishable sets) :
    (metadata sets).IsWritable := by
  refine .pair (by decide) areWritable_nil ?_
  intro m hm
  rw [List.mem_append, List.mem_singleton] at hm
  rcases hm with hm | rfl
  · obtain ⟨s, hs, rfl⟩ := List.mem_map.1 hm
    obtain ⟨-, hspace, htype⟩ := h.names s hs
    refine .pair (by decide) (areWritable_of_names ["Namespace"] rfl (by decide) (by decide) ?_) ?_
    · simp [hspace]
    · intro m hm
      rw [List.mem_singleton] at hm
      subst hm
      exact isWritable_typeMarkup htype (h.properties s hs) (h.keys s hs)
  · refine .pair (by decide) areWritable_nil ?_
    intro m hm
    rw [List.mem_singleton] at hm
    subst hm
    refine .pair (by decide) areWritable_nil ?_
    intro m hm
    obtain ⟨s, hs, rfl⟩ := List.mem_map.1 hm
    obtain ⟨hname, hspace, htype⟩ := h.names s hs
    refine .single (by decide)
      (areWritable_of_names ["Name", "EntityType"] rfl (by decide) (by decide) ?_)
    simp [hname, EntitySet.qualifiedType, isLegalText_qualify hspace htype]

/-! ## Schemas -/

theorem allNamed_typeMarkup (t : EntityType) : (typeMarkup t).node.allNamed "Schema" = [] := by
  rw [typeMarkup, allNamed_pair _ _ _ _ (by decide), List.flatMap_eq_nil_iff]
  intro n hn
  obtain ⟨m, hm, rfl⟩ := List.mem_map.1 hn
  rcases List.mem_cons.1 hm with rfl | hm
  · rw [keyMarkup, allNamed_pair _ _ _ _ (by decide), List.flatMap_eq_nil_iff]
    intro n hn
    obtain ⟨m, hm, rfl⟩ := List.mem_map.1 hn
    obtain ⟨k, -, rfl⟩ := List.mem_map.1 hm
    exact allNamed_single _ _ _ (by decide)
  · obtain ⟨p, -, rfl⟩ := List.mem_map.1 hm
    exact allNamed_single _ _ _ (by decide)

theorem allNamed_schemaMarkup (s : EntitySet) :
    (schemaMarkup s).node.allNamed "Schema" = [(schemaMarkup s).node] := by
  rw [schemaMarkup, allNamed_pair_self]
  simp [allNamed_typeMarkup]

theorem allNamed_containerMarkup (sets : List EntitySet) :
    (containerMarkup sets).node.allNamed "Schema" = [(containerMarkup sets).node] := by
  rw [containerMarkup, allNamed_pair_self, List.map_singleton, List.flatMap_singleton,
    allNamed_pair _ _ _ _ (by decide)]
  congr 1
  rw [List.flatMap_eq_nil_iff]
  intro n hn
  obtain ⟨m, hm, rfl⟩ := List.mem_map.1 hn
  obtain ⟨s, -, rfl⟩ := List.mem_map.1 hm
  exact allNamed_single _ _ _ (by decide)

/-- The schemas of the document: one for each set, and the one with the container. -/
theorem allNamed_metadata (sets : List EntitySet) :
    (metadata sets).node.allNamed "Schema" =
      sets.map (fun s => (schemaMarkup s).node) ++ [(containerMarkup sets).node] := by
  rw [metadata, allNamed_pair _ _ _ _ (by decide), List.map_append, List.flatMap_append,
    List.map_singleton, List.flatMap_singleton, allNamed_containerMarkup, List.map_map,
    List.flatMap_map]
  simp only [Function.comp_apply, allNamed_schemaMarkup]
  rw [List.map_eq_flatMap]

/-! ## Types -/

theorem declaredProperties_typeMarkup (t : EntityType) :
    declaredProperties (typeMarkup t).node = t.properties := by
  simp [declaredProperties, typeMarkup, keyMarkup, propertyMarkup, attributeOf, List.filter_map,
    Function.comp_def, lookup_cons_eq_ite]

theorem keyReferences_typeMarkup (t : EntityType) :
    keyReferences (typeMarkup t).node = t.key.map Property.name := by
  simp [keyReferences, typeMarkup, keyMarkup, propertyMarkup, attributeOf, List.filter_map,
    Function.comp_def]

theorem attributeOf_typeMarkup (t : EntityType) :
    attributeOf "Name" (typeMarkup t).node = t.name := by
  simp [attributeOf, typeMarkup]

/-- Among properties that differ in their names, a name leads back to its property. -/
theorem get?_propertyTable_of_mem {properties : List Property} {p : Property}
    (hd : (properties.map Property.name).Nodup) (hp : p ∈ properties) :
    (propertyTable properties).get? p.name = some p := by
  obtain ⟨q, hget, hq, hname⟩ := exists_get?_propertyTable hp
  rw [hget, List.inj_on_of_nodup_map hd hq hp hname]

/-- Every reference of a key leads back to the property that it was written for. -/
theorem filterMap_get?_propertyTable {properties key : List Property}
    (hd : (properties.map Property.name).Nodup) (hk : ∀ k ∈ key, k ∈ properties) :
    (key.map Property.name).filterMap (propertyTable properties).get? = key := by
  induction key with
  | nil => rfl
  | cons k key ih =>
      have hget := get?_propertyTable_of_mem hd (hk k List.mem_cons_self)
      rw [List.map_cons, List.filterMap_cons_some hget,
        ih fun k' hk' => hk k' (List.mem_cons_of_mem k hk')]

theorem entityType_typeMarkup {t : EntityType} (hd : (t.properties.map Property.name).Nodup)
    (hk : ∀ k ∈ t.key, k ∈ t.properties) : entityType (typeMarkup t).node = t := by
  simp only [entityType, declaredProperties_typeMarkup, keyReferences_typeMarkup,
    attributeOf_typeMarkup, filterMap_get?_propertyTable hd hk]

theorem keyNotices_typeMarkup {t : EntityType} (hd : (t.properties.map Property.name).Nodup)
    (hk : ∀ k ∈ t.key, k ∈ t.properties) : keyNotices (typeMarkup t).node = [] := by
  rw [keyNotices, keyReferences_typeMarkup, declaredProperties_typeMarkup, List.map_eq_nil_iff,
    List.filter_eq_nil_iff]
  intro name hname
  obtain ⟨k, hkey, rfl⟩ := List.mem_map.1 hname
  simp [get?_propertyTable_of_mem hd (hk k hkey)]

/-! ## Sets -/

def declarationOf (s : EntitySet) : TypeDeclaration := ⟨s.space, none, s.entityType⟩

theorem declarations_schemaMarkup {s : EntitySet}
    (hd : (s.entityType.properties.map Property.name).Nodup)
    (hk : ∀ k ∈ s.entityType.key, k ∈ s.entityType.properties) :
    declarations (schemaMarkup s).node = [declarationOf s] := by
  have hnamed : (typeMarkup s.entityType).node.isNamed "EntityType" := by
    simp [typeMarkup]
  simp [declarations, schemaMarkup, hnamed, attributeOf, entityType_typeMarkup hd hk, declarationOf]

theorem declarations_containerMarkup (sets : List EntitySet) :
    declarations (containerMarkup sets).node = [] := by
  simp [declarations, containerMarkup]

theorem setElements_schemaMarkup (s : EntitySet) : setElements (schemaMarkup s).node = [] := by
  simp [setElements, schemaMarkup, typeMarkup]

theorem setElements_containerMarkup (sets : List EntitySet) :
    setElements (containerMarkup sets).node = sets.map fun s => (setMarkup s).node := by
  simp [setElements, containerMarkup, setMarkup, List.filter_map, Function.comp_def]

/-- Sets that agree on the types they share find the declaration of any of them. -/
theorem get?_typeTable_of_mem {sets : List EntitySet}
    (h : ∀ s ∈ sets, ∀ t ∈ sets, s.qualifiedType = t.qualifiedType →
      s.space = t.space ∧ s.entityType = t.entityType) {s : EntitySet} (hs : s ∈ sets) :
    (typeTable (sets.map declarationOf)).get? s.qualifiedType = some (declarationOf s) := by
  have hnames (t : EntitySet) : (declarationOf t).names = [t.qualifiedType] := rfl
  obtain ⟨d, hget, hd, href⟩ := exists_get?_typeTable (List.mem_map_of_mem hs)
    (by rw [hnames]; exact List.mem_singleton_self s.qualifiedType)
  obtain ⟨t, ht, rfl⟩ := List.mem_map.1 hd
  rw [hnames, List.mem_singleton] at href
  obtain ⟨hspace, htype⟩ := h s hs t ht href
  rw [hget, declarationOf, declarationOf, hspace, htype]

theorem entitySet?_setMarkup {sets : List EntitySet}
    (h : ∀ s ∈ sets, ∀ t ∈ sets, s.qualifiedType = t.qualifiedType →
      s.space = t.space ∧ s.entityType = t.entityType) {s : EntitySet} (hs : s ∈ sets) :
    entitySet? (typeTable (sets.map declarationOf)) (setMarkup s).node = some s := by
  have hname : attributeOf "Name" (setMarkup s).node = s.name := by
    simp [attributeOf, setMarkup]
  have htype : attributeOf "EntityType" (setMarkup s).node = s.qualifiedType := by
    simp [attributeOf, setMarkup, lookup_cons_eq_ite]
  rw [entitySet?, htype, get?_typeTable_of_mem h hs, hname]
  rfl

/-! ## Documents -/

section Publishable

variable {sets : List EntitySet}

theorem flatMap_declarations_metadata (h : Publishable sets) :
    ((metadata sets).node.allNamed "Schema").flatMap declarations = sets.map declarationOf := by
  rw [allNamed_metadata, List.flatMap_append, List.flatMap_singleton,
    declarations_containerMarkup, List.append_nil, List.flatMap_map, List.map_eq_flatMap]
  apply List.flatMap_congr
  intro s hs
  exact declarations_schemaMarkup (h.distinct s hs) (h.keys s hs)

theorem flatMap_setElements_metadata (sets : List EntitySet) :
    ((metadata sets).node.allNamed "Schema").flatMap setElements =
      sets.map fun s => (setMarkup s).node := by
  rw [allNamed_metadata, List.flatMap_append, List.flatMap_singleton,
    setElements_containerMarkup, List.flatMap_map]
  simp [setElements_schemaMarkup]

theorem flatMap_keyNotices_metadata (h : Publishable sets) :
    (((metadata sets).node.allNamed "Schema").flatMap
      (Node.childrenNamed "EntityType")).flatMap keyNotices = [] := by
  rw [List.flatMap_eq_nil_iff]
  intro n hn
  rw [allNamed_metadata, List.flatMap_append, List.flatMap_singleton, List.flatMap_map,
    List.mem_append] at hn
  rcases hn with hn | hn
  · obtain ⟨s, hs, hn⟩ := List.mem_flatMap.1 hn
    have hnode : n = (typeMarkup s.entityType).node := by
      simpa [schemaMarkup, typeMarkup] using hn
    rw [hnode, keyNotices_typeMarkup (h.distinct s hs) (h.keys s hs)]
  · simp [containerMarkup] at hn

theorem filterMap_entitySet?_setMarkup (h : Publishable sets) :
    (sets.map fun s => (setMarkup s).node).filterMap
      (entitySet? (typeTable (sets.map declarationOf))) = sets := by
  have hsome : ∀ s ∈ sets, entitySet? (typeTable (sets.map declarationOf)) (setMarkup s).node =
      some s := by
    intro s hs
    exact entitySet?_setMarkup h.types hs
  rw [List.filterMap_map]
  exact (List.filterMap_congr hsome).trans List.filterMap_some

theorem setNotices_setMarkup (h : Publishable sets) :
    setNotices (typeTable (sets.map declarationOf)) (sets.map fun s => (setMarkup s).node) =
      [] := by
  rw [setNotices, List.map_eq_nil_iff, List.filter_eq_nil_iff]
  intro n hn
  obtain ⟨s, hs, rfl⟩ := List.mem_map.1 hn
  simp [entitySet?_setMarkup h.types hs]

theorem ofTree_metadata (h : Publishable sets) :
    Reading.ofTree (metadata sets).node = ⟨sets, [.summary sets.length (sets.length + 1)]⟩ := by
  have hcount : ((metadata sets).node.allNamed "Schema").length = sets.length + 1 := by
    simp [allNamed_metadata]
  simp only [Reading.ofTree, flatMap_declarations_metadata h, flatMap_setElements_metadata,
    filterMap_entitySet?_setMarkup h, flatMap_keyNotices_metadata h, setNotices_setMarkup h,
    hcount, List.nil_append]

/-- A metadata document of sets is read as these sets, in their order and without a warning, be it
given as a text or as bytes in UTF-8. -/
theorem reading_metadataText (h : Publishable sets) :
    Reading.ofText (metadataText sets) =
        .ok ⟨sets, [.summary sets.length (sets.length + 1)]⟩ ∧
      Reading.ofBytes (Text.utf8 (metadataText sets).toList) =
        .ok ⟨sets, [.summary sets.length (sets.length + 1)]⟩ := by
  have hwritable := isWritable_metadata h
  constructor
  · rw [Reading.ofText, metadataText, Xml.Document.ofText_text hwritable, Except.map,
      ofTree_metadata h]
  · rw [Reading.ofBytes, metadataText, String.toList_ofList, Xml.Document.ofBytes_text hwritable,
      Except.map, ofTree_metadata h]

end Publishable

/-- Two sets of one type, with a key that repeats a property, names that have to be escaped, and a
line break in a namespace. -/
def ampersandSets : List EntitySet :=
  let code : Property := ⟨"a\x22<&\x27\t", "Edm.String"⟩
  let type : EntityType := ⟨"T.\u00e9", [code, ⟨"", ""⟩], [code, ⟨"", ""⟩, code]⟩
  [⟨"Sets(", "N\r\nS.", type⟩, ⟨"", "N\r\nS.", type⟩]

theorem publishable_ampersandSets : Publishable ampersandSets where
  names := by simp [ampersandSets, IsLegalText, isLegal]
  properties := by simp [ampersandSets, IsLegalText, isLegal]
  distinct := by simp [ampersandSets]
  keys := by simp [ampersandSets]
  types := by simp [ampersandSets]

theorem reading_metadataText_ampersandSets :
    Publishable ampersandSets ∧
      Reading.ofText (metadataText ampersandSets) = .ok ⟨ampersandSets, [.summary 2 3]⟩ ∧
      Reading.ofBytes (Text.utf8 (metadataText ampersandSets).toList) =
        .ok ⟨ampersandSets, [.summary 2 3]⟩ :=
  ⟨publishable_ampersandSets, reading_metadataText publishable_ampersandSets⟩

end ServiceDoc.Csdl
