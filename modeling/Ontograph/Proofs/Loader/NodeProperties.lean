/-
Ontograph.Proofs.Loader.NodeProperties — what is stored with a node.

The properties of a node are entered one layer over another: those of the
entity, its annotation, its domain and its confidence, its vector, its identity.
Any of their names may be the name of another. `storedUnder?` says what then
stands under a key, the last layer that has something for it, and `Stores` that
this is all: no other key, and none twice.

So the identity is never covered. It is the one the node was found by, which is
why the store can overlay the properties on any node with that identity and
leave it where it is (`loadEntity_stores`).
-/
import Ontograph.Proofs.Entity.Confidence
import Ontograph.Proofs.Entity.Document
import Ontograph.Proofs.Loader.StoredVector
import Ontograph.Proofs.Loader.Templates
import Ontograph.Proofs.Store.Table

namespace Ontograph

/-! ## Entries -/

namespace Fields

theorem get?_insert (key other : String) (value : Json) (fields : Fields) :
    get? other (insert key value fields) =
      if other = key then some value else get? other fields := by
  split
  · rename_i h
    subst h
    exact get?_insert_self other value fields
  · rename_i h
    exact get?_insert_of_ne value h fields

theorem nodup_keys_insert {key : String} {value : Json} {fields : Fields}
    (h : (keys fields).Nodup) : (keys (insert key value fields)).Nodup :=
  nodup_place h

theorem mem_keys_iff {key : String} {fields : Fields} :
    key ∈ keys fields ↔ (get? key fields).isSome = true := by
  induction fields with
  | nil => simp [keys, get?, findNamed?]
  | cons e rest ih =>
    obtain ⟨k, value⟩ := e
    rw [get?_cons]
    by_cases h : k = key
    · simp [keys, h]
    · rw [if_neg h, ← ih]
      simp [keys, Ne.symm h]

/-- Overlaid entries cover what they mention, if none is mentioned twice. -/
theorem overlay_of_nodup {fields : Fields} (h : (keys fields).Nodup) (old : PropertyMap)
    (key : String) : overlay fields old key = (get? key fields).or (old key) := by
  induction fields generalizing old with
  | nil => rfl
  | cons e rest ih =>
    obtain ⟨k, value⟩ := e
    obtain ⟨hnot, hrest⟩ := List.nodup_cons.mp h
    have hstep : overlay ((k, value) :: rest) old =
        overlay rest (Function.update old k (some value)) := rfl
    rw [hstep, ih hrest, get?_cons]
    by_cases hkey : k = key
    · subst hkey
      simp [get?_eq_none hnot]
    · simp [hkey, Function.update_of_ne (Ne.symm hkey)]

end Fields

namespace Properties

theorem get?_toFields (p : Properties) (key : String) :
    Fields.get? key p.toFields = (p.get? key).map PropertyValue.toJson := by
  rw [toFields, get?]
  induction p.entries with
  | nil => rfl
  | cons e rest ih =>
    rw [List.map_cons, Fields.get?_cons, ih, List.find?_cons]
    by_cases h : e.1 = key <;> simp [h]

theorem nodup_keys_toFields (p : Properties) : (Fields.keys p.toFields).Nodup := by
  rw [toFields, Fields.keys, List.map_map]
  exact p.keys_nodup

end Properties

namespace Loader

variable {σ : Type}

/-! ## Layers -/

def vectorUnder? (node : NodeType) (e : Entity) (key : String) : Option Json :=
  match e.embedding, node.vectorProperty? with
  | some vector, some p => if key = p.name then some (PropertyValue.vectorJson vector) else none
  | _, _ => none

/-- What describes an entity besides its properties. -/
def describedUnder? (e : Entity) (key : String) : Option Json :=
  if key = "confidence" then some (Json.ofDouble (Confidence.clamp e.confidence).convert)
  else if key = "domain" then some (.string e.domain)
  else if key = "jsonld_schema" then some (.string e.annotationText)
  else none

/-- What an entity has under a key itself. -/
def ownUnder? (e : Entity) (key : String) : Option Json :=
  (e.properties.get? key).map PropertyValue.toJson

/-- What is stored under a key with the node of an entity: the identity, or else the vector, or else
what describes the entity, or else what it has there itself. -/
def storedUnder? (node : NodeType) (e : Entity) (id key : String) : Option Json :=
  if key = identityProperty then some (.string id)
  else (vectorUnder? node e key).or ((describedUnder? e key).or (ownUnder? e key))

/-- What describes an entity takes the place of what it has under the same key. -/
theorem get?_graphProperties (e : Entity) (key : String) :
    Fields.get? key e.graphProperties = (describedUnder? e key).or (ownUnder? e key) := by
  simp only [Entity.graphProperties, Fields.get?_insert, Properties.get?_toFields, describedUnder?,
    ownUnder?]
  split
  · rfl
  split
  · rfl
  split <;> rfl

theorem nodup_keys_graphProperties (e : Entity) : (Fields.keys e.graphProperties).Nodup := by
  unfold Entity.graphProperties
  refine Fields.nodup_keys_insert (Fields.nodup_keys_insert (Fields.nodup_keys_insert ?_))
  exact e.properties.nodup_keys_toFields

/-- Under each key stands what belongs there. -/
theorem get?_nodeProperties (node : NodeType) (e : Entity) (id key : String) :
    Fields.get? key (Statement.nodeProperties node e id) = storedUnder? node e id key := by
  unfold Statement.nodeProperties storedUnder? vectorUnder?
  rw [Fields.get?_insert]
  congr 1
  cases e.embedding with
  | none => rw [get?_graphProperties, Option.none_or]
  | some vector =>
    cases node.vectorProperty? with
    | none => rw [get?_graphProperties, Option.none_or]
    | some p =>
      simp only [Fields.get?_insert, get?_graphProperties]
      split <;> rfl

theorem nodup_keys_nodeProperties (node : NodeType) (e : Entity) (id : String) :
    (Fields.keys (Statement.nodeProperties node e id)).Nodup := by
  unfold Statement.nodeProperties
  refine Fields.nodup_keys_insert ?_
  split
  · exact Fields.nodup_keys_insert (nodup_keys_graphProperties e)
  · exact nodup_keys_graphProperties e

/-! ## Nodes -/

/-- Some properties are those of an entity's node: under every key stands what belongs there, no
key is there twice, and whatever they are written over has the identity afterwards. The confidence
among them lies between zero and one. -/
structure Stores (node : NodeType) (e : Entity) (id : String) (fields : Fields) : Prop where
  values : ∀ key, Fields.get? key fields = storedUnder? node e id key
  keys : ∀ key, key ∈ Fields.keys fields ↔
    key = identityProperty ∨ (∃ vector p, e.embedding = some vector ∧
      node.vectorProperty? = some p ∧ key = p.name) ∨
    key ∈ ["confidence", "domain", "jsonld_schema"] ∨ (e.properties.get? key).isSome = true
  distinct : (Fields.keys fields).Nodup
  identity : ∀ old, overlay fields old identityProperty = some (.string id)
  confidence : ∃ x, describedUnder? e "confidence" = some (.double x) ∧
    Confidence.Stands e.confidence x

theorem isSome_vectorUnder?_iff {node : NodeType} {e : Entity} {key : String} :
    (vectorUnder? node e key).isSome = true ↔
      ∃ vector p, e.embedding = some vector ∧ node.vectorProperty? = some p ∧ key = p.name := by
  unfold vectorUnder?
  cases e.embedding <;> cases node.vectorProperty? <;> simp

/-- The keys that describe an entity besides its own. -/
theorem isSome_describedUnder?_iff {e : Entity} {key : String} :
    (describedUnder? e key).isSome = true ↔ key ∈ ["confidence", "domain", "jsonld_schema"] := by
  unfold describedUnder?
  split_ifs <;> simp [*]

/-- The keys that are stored: the identity, the vector's, the three that describe, and the entity's
own. -/
theorem isSome_storedUnder?_iff {node : NodeType} {e : Entity} {id key : String} :
    (storedUnder? node e id key).isSome = true ↔
      key = identityProperty ∨ (∃ vector p, e.embedding = some vector ∧
        node.vectorProperty? = some p ∧ key = p.name) ∨
      key ∈ ["confidence", "domain", "jsonld_schema"] ∨ (e.properties.get? key).isSome = true := by
  rw [← isSome_vectorUnder?_iff, ← isSome_describedUnder?_iff (e := e), storedUnder?, ownUnder?]
  split
  · simp [*]
  · simp [*, Option.isSome_or]

/-- The properties of a statement are those of the entity's node. -/
theorem stores_nodeProperties (node : NodeType) (e : Entity) (id : String) :
    Stores node e id (Statement.nodeProperties node e id) where
  values := get?_nodeProperties node e id
  keys key := by rw [Fields.mem_keys_iff, get?_nodeProperties, isSome_storedUnder?_iff]
  distinct := nodup_keys_nodeProperties node e id
  identity old := by
    rw [Fields.overlay_of_nodup (nodup_keys_nodeProperties node e id), get?_nodeProperties_identity]
    rfl
  confidence := by
    obtain ⟨x, hx, hstands⟩ := Confidence.exists_stands e.confidence
    exact ⟨x, congrArg some hx, hstands⟩

/-- A statement writes the node of an entity: it names the identity, and its properties are those of
the node. -/
def WritesNode (node : NodeType) (e : Entity) (query : String) (params : Json) : Prop :=
  let id := deriveIdentity e.type (some node) e.properties
  query = nodeText node ∧ ∃ fields,
    params = .object [("id", .string id), ("props", .object fields)] ∧ Stores node e id fields

theorem writesNode_nodeStatement (node : NodeType) (e : Entity) :
    WritesNode node e (nodeStatement node e).query (.object (nodeStatement node e).params) :=
  ⟨rfl, _, rfl, stores_nodeProperties node e _⟩

def chart : NodeType where
  name := "Chart"
  properties := [{ name := "domain", type := .standard .vector }]

def chartLoader : Loader (StateM Unit) where
  ontology := ({ domain := "library", version := "1" } : Ontology).registerNode chart
  session := { run := fun _ _ => pure (.error .http) }
  backend := some
    { name := "one", dimensions := 1, embed := fun _ => pure (.ok (some [Confidence.certain])) }

/-- An entity that has a number for its identity, and properties of names that are taken. -/
def seaChart : Entity where
  type := chart.name
  properties := .ofList [("id", .integer 7), ("domain", .string "sea"),
    ("confidence", .string "low"), ("scale", .boolean true)]
  confidence := ⟨false, 128 * 2 ^ 23⟩

end Loader

end Ontograph
