import ServiceDoc.Xml.Namespace
import ServiceDoc.Xml.Tag
import ServiceDoc.Xml.Tree
import ServiceDoc.Xml.Value
/-!
# From tags to elements

What a start tag says, once its values are expanded, its defaults added and its prefixes resolved.
The bindings of a tag hold for the tag itself, so its attributes are read first and resolved after.

All faults but a repeated attribute are reported where the tag starts.
-/

namespace ServiceDoc.Xml

/-- The attributes of a tag before prefixes are resolved. -/
structure TagReading where
  /-- The names that the tag gives. -/
  given : List (List Char) := []
  /-- Names as written, with values, the last one first. -/
  attributes : List (List Char × List Char) := []
  scope : Scope

namespace TagReading

/-- One more attribute: a binding, or a value of the element. -/
def add (t : TagReading) (name value : List Char) : Except Cause TagReading :=
  match declaredPrefix? name with
  | none => .ok { t with attributes := (name, value) :: t.attributes }
  | some pfx =>
    match t.scope.bind pfx value with
    | .error cause => .error cause
    | .ok scope => .ok { t with scope := scope }

/-- The attributes that the tag gives, each at most once. -/
def addGiven (dtd : Dtd) (start : List Symbol) (declared : List DeclaredAttribute)
    (t : TagReading) : List RawAttribute → Except Fault TagReading
  | [] => .ok t
  | a :: as =>
    if t.given.contains a.name then .error ⟨.duplicateAttribute, a.nameAt⟩
    else
      let tokenized := ((declared.find? (·.name = a.name)).map (·.tokenized)).getD false
      match expandValue dtd tokenized start a.value a.valueEnd with
      | .error f => .error f
      | .ok value =>
        match { t with given := a.name :: t.given }.add a.name value with
        | .error cause => .error ⟨cause, start⟩
        | .ok t => addGiven dtd start declared t as

/-- The defaults of the attributes that the tag does not give. -/
def addDefaults (t : TagReading) : List DeclaredAttribute → Except Cause TagReading
  | [] => .ok t
  | ⟨name, _, some value⟩ :: ds =>
    if t.given.contains name then addDefaults t ds
    else
      match t.add name value with
      | .error cause => .error cause
      | .ok t => addDefaults t ds
  | ⟨_, _, none⟩ :: ds => addDefaults t ds

end TagReading

/-- Attributes with their prefixes resolved. Two prefixes may stand for one namespace, so a name can
be repeated after all; `seen` holds the names in a namespace so far. -/
def resolveAttributes (scope : Scope) (seen : List Name) (acc : List Attribute) :
    List (List Char × List Char) → Except Cause (List Attribute)
  | [] => .ok acc.reverse
  | (name, value) :: as =>
    match splitName name with
    | (none, l) =>
      resolveAttributes scope seen (⟨⟨none, String.ofList l⟩, String.ofList value⟩ :: acc) as
    | (some p, l) =>
      match scope.lookup p with
      | none => .error .unboundPrefix
      | some address =>
        let name : Name := ⟨some (String.ofList address), String.ofList l⟩
        if seen.contains name then .error .duplicateAttribute
        else resolveAttributes scope (name :: seen) (⟨name, String.ofList value⟩ :: acc) as

def resolveElement (scope : Scope) (name : List Char) : Except Cause Name :=
  match splitName name with
  | (none, l) => .ok ⟨scope.default?.map String.ofList, String.ofList l⟩
  | (some p, l) =>
    match scope.lookup p with
    | none => .error .unboundPrefix
    | some address => .ok ⟨some (String.ofList address), String.ofList l⟩

/-- What a start tag says of its element. -/
structure Opening where
  name : Name
  attributes : List Attribute
  /-- The bindings inside the element. -/
  scope : Scope

/-- The element that a tag opens; `start` is the document from the tag on. -/
def StartTag.opening (dtd : Dtd) (scope : Scope) (start : List Symbol) (tag : StartTag) :
    Except Fault Opening :=
  let declared := dtd.attributesOf tag.name
  match TagReading.addGiven dtd start declared ⟨[], [], scope⟩ tag.attributes with
  | .error f => .error f
  | .ok t =>
    match t.addDefaults declared with
    | .error cause => .error ⟨cause, start⟩
    | .ok t =>
      match resolveAttributes t.scope [] [] t.attributes.reverse with
      | .error cause => .error ⟨cause, start⟩
      | .ok attributes =>
        match resolveElement t.scope tag.name with
        | .error cause => .error ⟨cause, start⟩
        | .ok name => .ok ⟨name, attributes, t.scope⟩

end ServiceDoc.Xml
