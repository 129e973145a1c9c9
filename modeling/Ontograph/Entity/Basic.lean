/-
Ontograph.Entity.Basic — extracted entities.

An entity is a candidate for a node: a type, a bag of properties and the
relationships that lead from it. Its JSON form is a record; what the graph
store gets is a flat object of properties, into which the annotation, the
domain and the confidence are entered after the entity's own.
-/
import Ontograph.Entity.Properties
import Ontograph.Json.Record

namespace Ontograph

/-! ## Confidence -/

namespace Confidence

/-- One half, which stands for a confidence that is not given. -/
def unknown : Single := ⟨false, 126 * Nat.pow 2 23⟩

def certain : Single := ⟨false, 127 * Nat.pow 2 23⟩

def clamp (x : Single) : Single := if x.isNaN then unknown else Binary.clamp .zero certain x

end Confidence

/-! ## Relationships -/

structure RelationshipRef where
  targetType : String
  targetId : String
  kind : String
  properties : Properties := .empty
  deriving DecidableEq

namespace RelationshipRef

def toJson (r : RelationshipRef) : Json :=
  .object [("target_type", .string r.targetType), ("target_id", .string r.targetId),
    ("relationship_type", .string r.kind), ("properties", r.properties.toDocument)]

/-- The reference of a record, whose properties are nested at most `depth` levels deep. -/
def ofShape? (depth : Nat) (j : Json.Shape) : Option RelationshipRef := do
  let r ← j.record? ["target_type", "target_id", "relationship_type", "properties"]
  pure {
    targetType := ← Json.required r "target_type" Json.Shape.string?
    targetId := ← Json.required r "target_id" Json.Shape.string?
    kind := ← Json.required r "relationship_type" Json.Shape.string?
    properties := ← Json.defaulted r "properties" .empty (Properties.ofShape? depth) }

end RelationshipRef

/-! ## Entities -/

/-- A candidate for a node. -/
structure Entity where
  type : String
  properties : Properties := .empty
  relationships : List RelationshipRef := []
  confidence : Single := Confidence.unknown
  sourceSpan : String := ""
  domain : String := "generic"
  annotation : Json := .null
  embedding : Option (List Single) := none

namespace Entity

/-- An entity as a record; the embedding is there only if there is one. -/
def toJson (e : Entity) : Json :=
  .object ([("entity_type", .string e.type), ("properties", e.properties.toDocument),
    ("relationships", .array (e.relationships.map RelationshipRef.toJson)),
    ("confidence", Json.ofSingle e.confidence),
    ("source_span", .string e.sourceSpan), ("domain", .string e.domain),
    ("jsonld_schema", e.annotation)] ++
    match e.embedding with
    | none => []
    | some xs => [("embedding", PropertyValue.vectorDocument xs)])

def ofShape? (j : Json.Shape) : Option Entity := do
  let r ← j.record? ["entity_type", "properties", "relationships", "confidence", "source_span",
    "domain", "jsonld_schema", "embedding"]
  let depth := Json.depthLimit - 1
  pure {
    type := ← Json.required r "entity_type" Json.Shape.string?
    properties := ← Json.defaulted r "properties" .empty (Properties.ofShape? depth)
    relationships :=
      ← Json.defaulted r "relationships" [] (Json.listOf (RelationshipRef.ofShape? (depth - 2)))
    confidence := ← Json.defaulted r "confidence" Confidence.unknown Json.Shape.single?
    sourceSpan := ← Json.defaulted r "source_span" "" Json.Shape.string?
    domain := ← Json.defaulted r "domain" "generic" Json.Shape.string?
    annotation := ← Json.defaulted r "jsonld_schema" .null (Json.Shape.settle depth)
    embedding :=
      ← Json.defaulted r "embedding" none (Json.nullable (Json.listOf Json.Shape.single?)) }

def ofText? (s : String) : Option Entity := (Json.read s).bind ofShape?

/-- The annotation as the text that is stored with a node. -/
def annotationText (e : Entity) : String :=
  match e.annotation with
  | .null => "\x7b\x7d"
  | annotation => annotation.compact

/-- The properties of the entity's node, apart from its identity and its embedding. -/
def graphProperties (e : Entity) : Fields :=
  let own := e.properties.toFields
  let annotated := Fields.insert "jsonld_schema" (.string e.annotationText) own
  let placed := Fields.insert "domain" (.string e.domain) annotated
  Fields.insert "confidence" (Json.ofDouble (Confidence.clamp e.confidence).convert) placed

def embeddedProperties : List String :=
  ["name", "title", "number", "summary", "description", "content"]

/-- The text that is embedded for an entity: its type and the values of its telling properties. -/
def embeddedText (e : Entity) : String :=
  " ".intercalate
    (e.type :: embeddedProperties.filterMap fun key =>
      (e.properties.get? key).map PropertyValue.displayText)

end Entity

end Ontograph
