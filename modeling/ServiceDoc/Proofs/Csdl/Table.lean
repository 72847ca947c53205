import ServiceDoc.Csdl.Reading
import ServiceDoc.Proofs.OrderedMap.LastWrite
/-!
# Tables of names

What a name leads to in the two tables of a reading. Of the properties of a type it is the last one
with that name, and of the declared types the last one that is known under it, be it by the
namespace or by the alias of its schema.
-/

namespace ServiceDoc.Csdl

theorem get?_propertyTable (properties : List Property) (name : String) :
    (propertyTable properties).get? name =
      (properties.filter fun p => p.name = name).getLast? := by
  rw [propertyTable, OrderedMap.get?_ofList_map Property.name (fun p => p), Option.map_id']

theorem get?_typeTable (ds : List TypeDeclaration) (ref : String) :
    (typeTable ds).get? ref = (ds.filter fun d => ref ∈ d.names).getLast? := by
  rw [typeTable, OrderedMap.get?_ofList_flatMap TypeDeclaration.names (fun d => d), Option.map_id']

theorem mem_of_getLast?_filter {α : Type} {p : α → Bool} {xs : List α} {x : α}
    (h : (xs.filter p).getLast? = some x) : x ∈ xs ∧ p x :=
  List.mem_filter.1 (List.mem_of_getLast? h)

theorem exists_getLast?_filter {α : Type} {p : α → Bool} {xs : List α} {x : α} (hx : x ∈ xs)
    (hp : p x) : ∃ y, (xs.filter p).getLast? = some y := by
  have hne : xs.filter p ≠ [] := List.ne_nil_of_mem (List.mem_filter.2 ⟨hx, hp⟩)
  exact ⟨_, List.getLast?_eq_some_getLast hne⟩

/-- A name that is declared leads to a property of that name. -/
theorem exists_get?_propertyTable {properties : List Property} {p : Property}
    (hp : p ∈ properties) :
    ∃ q, (propertyTable properties).get? p.name = some q ∧ q ∈ properties ∧ q.name = p.name := by
  obtain ⟨q, hq⟩ := exists_getLast?_filter (p := fun q => q.name = p.name) hp (decide_eq_true rfl)
  obtain ⟨hmem, hname⟩ := mem_of_getLast?_filter hq
  exact ⟨q, (get?_propertyTable properties p.name).trans hq, hmem, of_decide_eq_true hname⟩

/-- A key consists of the properties that their names lead to. -/
theorem get?_propertyTable_of_mem_key {element : Xml.Node} {k : Property}
    (hk : k ∈ (entityType element).key) :
    (propertyTable (entityType element).properties).get? k.name = some k := by
  obtain ⟨name, -, hget⟩ := List.mem_filterMap.1 hk
  have hname : k.name = name := by
    rw [get?_propertyTable] at hget
    exact of_decide_eq_true (mem_of_getLast?_filter hget).2
  rw [hname]
  exact hget

/-- A name that is declared leads to a declaration known under it. -/
theorem exists_get?_typeTable {ds : List TypeDeclaration} {ref : String} {d : TypeDeclaration}
    (hd : d ∈ ds) (href : ref ∈ d.names) :
    ∃ e, (typeTable ds).get? ref = some e ∧ e ∈ ds ∧ ref ∈ e.names := by
  obtain ⟨e, he⟩ := exists_getLast?_filter (p := fun e => ref ∈ e.names) hd (decide_eq_true href)
  obtain ⟨hmem, hname⟩ := mem_of_getLast?_filter he
  exact ⟨e, (get?_typeTable ds ref).trans he, hmem, of_decide_eq_true hname⟩

end ServiceDoc.Csdl
